import SchemaNet.Proofs.Network.Training
import SchemaNet.Proofs.Network.WalkDomain
import SchemaNet.Proofs.Scalar.Order

/-!
The value of an empty pool against the actions that are pooled. A valid pad lies below all
values of the nonlinearity, so without dropout no pool of actions yields less than an empty
one. Dropout divides the values that it keeps by the probability to keep one, and negative
values fall: then the pad lies below them if it is divided as well, or if the nonlinearity
has no negative values.
-/

namespace SchemaNet
open Memory (bind_eq_ok)
open Scalar (IsNumber OrderLaws)

variable {α σ : Type} [Scalar α]

theorem ModuleConfig.validate_eq_ok {config : ModuleConfig α} : config.validate = .ok () ↔
    (Scalar.le Scalar.zero config.dropout = true ∧ Scalar.lt config.dropout Scalar.one = true) ∧
      Scalar.isFinite config.pad = true ∧
        ∃ bound, config.activation.lowerBound? = some bound ∧
          Scalar.lt bound config.pad = false := by
  unfold ModuleConfig.validate ModuleConfig.fault?
  rw [← Bool.and_eq_true]
  cases Scalar.le Scalar.zero config.dropout && Scalar.lt config.dropout Scalar.one
  · simp
  · cases Scalar.isFinite config.pad
    · simp
    · cases (config.activation.lowerBound? : Option α) with
      | none => simp
      | some bound => cases above : Scalar.lt bound config.pad <;> simp [above]

/-! ## Bounds of tensors -/

namespace Tensor

/-- Every number in a tensor is at least `bound`. -/
def AtLeast (tensor : Tensor α) (bound : α) : Prop :=
  ∀ x ∈ tensor.flat, IsNumber x → Scalar.le bound x = true

omit [Scalar α] in
theorem mem_flat_build {batch entities channels : Nat} {rows : Unit → List (List (List α))}
    {dims : HasDims batch entities channels (rows ())} {x : α} :
    x ∈ (build batch entities channels rows dims).flat ↔
      ∃ row ∈ rows (), ∃ entity ∈ row, x ∈ entity := by
  have flat : (build batch entities channels rows dims).flat = (flatRows (rows ())).flatten :=
    @Grid.flat_build α batch (entities * channels) (fun _ => flatRows (rows ())) (flatRows_shape dims)
  simp [flat, flatRows]

variable {tensor result : Tensor α} {bound low : α}

theorem AtLeast.mono [OrderLaws α] (h : tensor.AtLeast bound) (le : Scalar.le low bound = true) :
    tensor.AtLeast low :=
  fun x mem number => OrderLaws.le_trans le (h x mem number)

theorem mem_apply {block : WeightBlock α} {name : String} {activation : Activation}
    (h : block.apply name activation tensor = .ok result) {x : α} (mem : x ∈ result.flat) :
    ∃ y, x = activation.apply y := by
  obtain ⟨inputs, biased⟩ := WeightBlock.fits_of_apply h
  have added : ¬(block.b.length ≠ block.outputs ∧ block.b.length ≠ 1) := not_and_or.2
    (biased.imp not_not.2 not_not.2)
  unfold WeightBlock.apply at h
  rw [if_neg (not_not.2 inputs.symm), if_neg added] at h
  obtain rfl := Except.ok.inj h
  obtain ⟨_, hrow, entity, hentity, mem⟩ := mem_flat_build.1 mem
  obtain ⟨source, -, rfl⟩ := List.mem_map.1 hrow
  obtain ⟨own, -, rfl⟩ := List.mem_map.1 hentity
  obtain ⟨y, -, rfl⟩ := List.mem_map.1 mem
  exact ⟨y, rfl⟩

/-! ## Dropout -/

theorem AtLeast.dropBy [OrderLaws α] {keep : α} (h : tensor.AtLeast bound)
    (negative : Scalar.le bound Scalar.zero = true) (positive : Scalar.lt Scalar.zero keep = true)
    (finite : Scalar.isFinite keep = true) (draws : List α)
    (count : draws.length = tensor.flat.length) :
    (tensor.dropBy keep draws count).AtLeast (bound / keep) := by
  refine forall_mem_zipWith fun draw _ x mem => ?_
  unfold dropValue
  split
  · intro number
    exact OrderLaws.div_le_div positive finite (h x mem (OrderLaws.number_of_div number))
  · intro _
    rw [← OrderLaws.zero_div positive finite]
    exact OrderLaws.div_le_div positive finite negative

theorem dropout_run [WordSource σ] {p : α} (drops : ¬Scalar.le p Scalar.zero = true)
    (tensor : Tensor α) (before : σ) : ∃ draws count,
      ((tensor.dropout p).run before).1 = tensor.dropBy (Scalar.one - p) draws count := by
  unfold Tensor.dropout
  rw [if_neg drops]
  exact ⟨_, ((Uniform.many Uniform.unit tensor.flat.length).run before).1.2, rfl⟩

theorem AtLeast.zero_dropout [OrderLaws α] [WordSource σ] {p : α} (h : tensor.AtLeast Scalar.zero)
    (least : Scalar.le Scalar.zero p = true) (most : Scalar.lt p Scalar.one = true) (before : σ) :
    ((tensor.dropout p).run before).1.AtLeast Scalar.zero := by
  by_cases none : Scalar.le p Scalar.zero = true
  · rw [Tensor.dropout, if_pos none]
    exact h
  · obtain ⟨positive, finite⟩ := OrderLaws.one_sub least most
    obtain ⟨draws, count, same⟩ := dropout_run none tensor before
    have dropped := h.dropBy (OrderLaws.le_refl OrderLaws.number_zero) positive finite draws count
    rwa [OrderLaws.zero_div positive finite, ← same] at dropped

/-! ## Pools -/

omit [Scalar α] in
theorem mem_flat_of_mem_rows {row : List (List α)} {entity : List α} {x : α}
    (hrow : row ∈ tensor.rows) (hentity : entity ∈ row) (mem : x ∈ entity) : x ∈ tensor.flat := by
  obtain ⟨piece, hpiece, rfl⟩ := List.mem_map.1 hrow
  rw [← flatten_chunks tensor.size]
  refine List.mem_flatten_of_mem hpiece ?_
  rw [← flatten_chunks (length_of_mem_chunks tensor.size hpiece)]
  exact List.mem_flatten_of_mem hentity mem

theorem mem_poolEntity [OrderLaws α] {channels : Nat} {pad : α} {row : List (List α)}
    {pool : List Nat} {x : α} (mem : x ∈ poolEntity channels pad row pool) :
    x = pad ∨ ∃ i ∈ pool, x ∈ entityAt row i := by
  have fold : ∀ (rest : List Nat) (greatest : List α) (x : α),
      x ∈ rest.foldl (fun greatest i => List.zipWith Scalar.max greatest (entityAt row i)) greatest →
        x ∈ greatest ∨ ∃ i ∈ rest, x ∈ entityAt row i := by
    intro rest
    induction rest with
    | nil => exact fun _ _ mem => .inl mem
    | cons i rest ih =>
      intro greatest x mem
      rcases ih _ x mem with mem | ⟨j, hj, mem⟩
      · have chosen : ∀ z ∈ List.zipWith Scalar.max greatest (entityAt row i),
            z ∈ greatest ∨ z ∈ entityAt row i := by
          refine forall_mem_zipWith fun a ha b hb => ?_
          rcases OrderLaws.max_choice a b with same | same <;> rw [same]
          · exact .inl ha
          · exact .inr hb
        exact (chosen x mem).imp_right fun mem => ⟨i, List.mem_cons_self, mem⟩
      · exact .inr ⟨j, List.mem_cons_of_mem _ hj, mem⟩
  cases pool with
  | nil => exact .inl (List.eq_of_mem_replicate mem)
  | cons first rest =>
    rcases fold rest _ x mem with mem | ⟨i, hi, mem⟩
    · exact .inr ⟨first, List.mem_cons_self, mem⟩
    · exact .inr ⟨i, List.mem_cons_of_mem _ hi, mem⟩

/-- No pool yields less than the empty one, if the pad is a lower bound of what is pooled. -/
theorem AtLeast.maxPool [OrderLaws α] {pad : α} (h : tensor.AtLeast bound)
    (padded : Scalar.le bound pad = true) {pools : List (List Nat)}
    (pooled : tensor.maxPool pools pad = .ok result) : result.AtLeast bound := by
  unfold Tensor.maxPool at pooled
  split at pooled
  · next inRange =>
    obtain rfl := Except.ok.inj pooled
    intro x mem number
    obtain ⟨_, hrow, entity, hentity, mem⟩ := mem_flat_build.1 mem
    obtain ⟨row, hsource, rfl⟩ := List.mem_map.1 hrow
    obtain ⟨pool, hpool, rfl⟩ := List.mem_map.1 hentity
    rcases mem_poolEntity mem with rfl | ⟨i, hi, mem⟩
    · exact padded
    · have inside : i < row.length := by
        rw [(tensor.rows_dims.each row hsource).count]
        exact inRange pool hpool i hi
      rw [entityAt, List.getD_eq_getElem?_getD, List.getElem?_eq_getElem inside] at mem
      exact h x (mem_flat_of_mem_rows hsource (List.getElem_mem inside) mem) number
  · cases pooled

end Tensor

/-! ## The pad of a network -/

/-- The pad, divided like the values that dropout keeps. -/
def ModuleConfig.scaledPad (config : ModuleConfig α) : α :=
  if Scalar.le config.dropout Scalar.zero then config.pad
  else config.pad / (Scalar.one - config.dropout)

namespace ModuleConfig

variable [OrderLaws α] {config : ModuleConfig α}

theorem pad_le_bound (valid : config.validate = .ok ()) : ∃ bound,
    config.activation.lowerBound? = some bound ∧ Scalar.le config.pad bound = true ∧
      Scalar.le bound Scalar.zero = true := by
  obtain ⟨-, finite, bound, own, below⟩ := validate_eq_ok.1 valid
  have number : IsNumber bound ∧ Scalar.le bound Scalar.zero = true := by
    rcases Activation.lowerBound?_cases own with rfl | rfl
    · exact ⟨OrderLaws.number_neg_one, OrderLaws.neg_one_le_zero⟩
    · exact ⟨OrderLaws.number_zero, OrderLaws.le_refl OrderLaws.number_zero⟩
  have padded := OrderLaws.le_of_not_lt number.1 (OrderLaws.number_of_finite finite) below
  exact ⟨bound, own, padded, number.2⟩

theorem scaledPad_dropout [WordSource σ] (valid : config.validate = .ok ()) {tensor : Tensor α}
    (h : tensor.AtLeast config.pad) (before : σ) :
    ((tensor.dropout config.dropout).run before).1.AtLeast config.scaledPad := by
  obtain ⟨⟨least, most⟩, -⟩ := validate_eq_ok.1 valid
  obtain ⟨bound, -, padded, negative⟩ := pad_le_bound valid
  unfold scaledPad
  split
  · next none =>
    rw [Tensor.dropout, if_pos none]
    exact h
  · next drops =>
    obtain ⟨positive, finite⟩ := OrderLaws.one_sub least most
    obtain ⟨draws, count, same⟩ := Tensor.dropout_run drops tensor before
    rw [same]
    exact h.dropBy (OrderLaws.le_trans padded negative) positive finite draws count

end ModuleConfig

namespace PolicyNetwork

/-- If a module is one whose outputs are pooled, they are at least `bound`. -/
def PooledAtLeast (net : PolicyNetwork α) (bound : α) (out : ModuleOutput α) : Prop :=
  ∀ layer s, layer < net.arch.final → out.key = .action layer s → out.output.AtLeast bound

variable {net : PolicyNetwork α} {weights : Weights α} {key : BlockKey} {bound low : α}

theorem runModule_atLeast {activation : Activation} (bounded : activation.AboveBound α)
    (own : activation.lowerBound? = some bound) {view : Tensor α} {out : ModuleOutput α}
    (h : net.runModule weights key activation view = .ok out) : out.output.AtLeast bound := by
  obtain ⟨name, block, output, -, -, houtput, rfl⟩ := runModule_eq_ok.1 h
  intro x mem number
  obtain ⟨y, rfl⟩ := Tensor.mem_apply houtput mem
  exact bounded bound own y number

theorem runModule_key {activation : Activation} {view : Tensor α} {out : ModuleOutput α}
    (h : net.runModule weights key activation view = .ok out) : out.key = key := by
  obtain ⟨name, block, output, -, -, -, rfl⟩ := runModule_eq_ok.1 h
  rfl

/-- The outputs that are pooled stay above what `drop` makes of a bound of the activation. -/
theorem drops_pooledAtLeast {drop : Tensor α → StateM σ (Tensor α)}
    (bounded : net.config.activation.AboveBound α)
    (own : net.config.activation.lowerBound? = some bound)
    (dropped : ∀ tensor : Tensor α, tensor.AtLeast bound →
      ∀ before, ((drop tensor).run before).1.AtLeast low) :
    net.Drops weights drop (net.PooledAtLeast low) where
  final s view out ran := by
    intro layer id inside same
    obtain ⟨rfl, -⟩ := BlockKey.mk.inj (same.symm.trans (runModule_key ran))
    exact absurd inside (Nat.lt_irrefl _)
  action layer s view out before _ ran := fun _ _ _ _ =>
    dropped out.output (runModule_atLeast bounded own ran) before
  predicate layer pred view out before ran := by
    intro _ _ _ same
    cases (BlockKey.mk.inj ((runModule_key ran).symm.trans same)).2

omit [Scalar α] in
/-- The wiring and the merge follow from the problem. -/
theorem eq_of_fields {net' : PolicyNetwork α} (problem : net.problem = net'.problem)
    (arch : net.arch = net'.arch) (config : net.config = net'.config) : net = net' := by
  obtain ⟨own, layers, modules, wiring, merge, rfl, merged⟩ := net
  obtain ⟨own', layers', modules', wiring', merge', rfl, merged'⟩ := net'
  obtain rfl : own = own' := problem
  obtain rfl : layers = layers' := arch
  obtain rfl : modules = modules' := config
  obtain rfl := Except.ok.inj (merged.symm.trans merged')
  rfl

/-- At every layer the pad is a lower bound of the outputs of the actions that are pooled, and
in training the pad that is divided like the values that are kept. This holds for layers on any
tensors, also if a later layer fails. -/
theorem pad_below_pooled_actions [OrderLaws α] {problem : Problem} {config : ModuleConfig α}
    (assembled : forWeights problem weights config = .ok net)
    (bounded : config.activation.AboveBound α) :
    (∀ input layer acts props outs, layer ≤ net.arch.final →
      (net.actionLayer (m := Id) weights pure input layer acts props).run = .ok outs →
        ∀ out ∈ outs, net.PooledAtLeast config.pad out) ∧
    (∀ input evaluation, net.evaluate weights input = .ok evaluation →
      ∀ out ∈ evaluation.modules, net.PooledAtLeast config.pad out) ∧
    (∀ (tensor pooled : Tensor α) pools, tensor.AtLeast config.pad →
      tensor.maxPool pools config.pad = .ok pooled → pooled.AtLeast config.pad) ∧
    ∀ (σ : Type) [WordSource σ] (low : α), (low = config.scaledPad ∨
        low = config.pad ∧ config.activation.lowerBound? = some (Scalar.zero : α)) →
      (∀ input layer acts props, layer ≤ net.arch.final →
        Stateful.Ensures (σ := σ)
          (net.actionLayer weights (Tensor.dropout config.dropout) input layer acts props)
          fun outs => ∀ out ∈ outs, net.PooledAtLeast low out) ∧
      ∀ input, Stateful.Ensures (σ := σ)
        (net.run weights (Tensor.dropout config.dropout) input)
        fun evaluation => ∀ out ∈ evaluation.modules, net.PooledAtLeast low out := by
  obtain ⟨-, -, rfl⟩ := forWeights_fields assembled
  have valid : net.config.validate = .ok () := (exists_forWeights_iff.1 ⟨net, assembled⟩).1.2.1
  obtain ⟨bound, own, padded, negative⟩ := ModuleConfig.pad_le_bound valid
  have unchanged : net.Drops (σ := Unit) weights pure (net.PooledAtLeast net.config.pad) :=
    drops_pooledAtLeast bounded own fun _ h _ => h.mono padded
  have finite : IsNumber net.config.pad :=
    OrderLaws.number_of_finite (ModuleConfig.validate_eq_ok.1 valid).2.1
  refine ⟨fun input layer acts props outs inside ran => ?_, fun input evaluation ran => ?_,
    fun tensor pooled pools h ran => h.maxPool (OrderLaws.le_refl finite) ran,
    fun σ _ low hlow => ?_⟩
  · rw [actionLayer_run] at ran
    have layer_ensures : Stateful.Ensures (σ := Unit)
        (net.actionLayer weights pure input layer acts props) fun outs =>
          ∀ out ∈ outs, net.PooledAtLeast net.config.pad out := unchanged.actionLayer inside
    refine layer_ensures () outs () ?_
    rw [actionLayer_ofExcept, ran]
    rfl
  · have run_ensures : Stateful.Ensures (σ := Unit) (net.run weights pure input) fun evaluation =>
        ∀ out ∈ evaluation.modules, net.PooledAtLeast net.config.pad out := unchanged.run
    refine run_ensures () evaluation () ?_
    rw [run_ofExcept, ran]
    rfl
  · have drops : net.Drops (σ := σ) weights (Tensor.dropout net.config.dropout)
        (net.PooledAtLeast low) := by
      refine drops_pooledAtLeast bounded own fun tensor h before => ?_
      rcases hlow with rfl | ⟨rfl, zero⟩
      · exact ModuleConfig.scaledPad_dropout valid (h.mono padded) before
      · obtain rfl := Option.some.inj (own.symm.trans zero)
        obtain ⟨⟨least, most⟩, -⟩ := ModuleConfig.validate_eq_ok.1 valid
        exact (h.zero_dropout least most before).mono padded
    exact ⟨fun input layer acts props inside => drops.actionLayer inside, fun input => drops.run⟩

end PolicyNetwork

namespace WalkDomain

def halfDropped : ModuleConfig Rational := ⟨.elu, ⟨-1⟩, ⟨1 / 2⟩⟩

/-- A block with a single output, from its weights and its bias. -/
def rationalBlock (weights : List Rat) (bias : Rat) : WeightBlock Rational :=
  ⟨⟨weights.length, 1, weights.map .mk, by rw [List.length_map, Nat.mul_one]⟩, [⟨bias⟩]⟩

/-- Walks have a very low value, which the proposition at their first place adds to three. -/
def lowWalks : Weights Rational where
  domain := domain
  arch := arch
  blocks := [rationalBlock [0, 0, 0, 0, 0] (-200), rationalBlock [0, 0, 0] 0,
    rationalBlock [0, 0, 0] 0, rationalBlock [1, 0, 0, 0] 3, rationalBlock [0, 1, 0] 0,
    rationalBlock [0, 0] 0, rationalBlock [0, 0] 0]
  aligned := by decide

def network : PolicyNetwork Rational where
  problem := problem
  arch := arch
  config := halfDropped
  wiring := Wiring.ofProblem problem
  merge := [2, 0, 1]
  wiring_eq := rfl
  merge_eq := by decide

def featureless : PolicyInput Rational :=
  { props := ⟨1, 4, [1, 0, 0, 1].map fun x => ⟨x⟩, rfl⟩
    extra := ⟨1, 3, 1, [0, 0, 0].map fun x => ⟨x⟩, rfl⟩ }

theorem network_assembled :
    PolicyNetwork.forWeights problem lowWalks halfDropped = .ok network := by
  have shaped : lowWalks.WellShaped :=
    Weights.wellShaped_of_entries (by decide) (by decide) (by decide)
  have valid : halfDropped.validate = .ok () := by decide +kernel
  have own : lowWalks.domain = problem.domain := rfl
  obtain ⟨net, hnet, same, layers, config⟩ := PolicyNetwork.exists_forWeights shaped own valid
  have equal : net = network := PolicyNetwork.eq_of_fields same layers config
  rw [hnet, equal]

theorem low_walks_bounded : PolicyNetwork.forWeights problem lowWalks halfDropped = .ok network ∧
    halfDropped.activation.AboveBound Rational ∧
    ∃ evaluation, network.evaluate lowWalks featureless = .ok evaluation ∧
      ∀ out ∈ evaluation.modules, network.PooledAtLeast ⟨-1⟩ out := by
  obtain ⟨-, evaluated, -⟩ :=
    PolicyNetwork.pad_below_pooled_actions network_assembled Rational.elu_aboveBound
  have ran : (network.evaluate lowWalks featureless).isOk = true := by decide +kernel
  cases h : network.evaluate lowWalks featureless with
  | error fault => rw [h] at ran; cases ran
  | ok evaluation =>
    exact ⟨network_assembled, Rational.elu_aboveBound, evaluation, rfl, evaluated _ evaluation h⟩

/-- In training a walk is kept, and its value is doubled to one that lies below the pad. -/
theorem kept_walk_below_pad :
    PolicyNetwork.forWeights problem lowWalks halfDropped = .ok network ∧
    halfDropped.activation.AboveBound Rational ∧
    ∃ evaluation after,
      (network.run lowWalks (Tensor.dropout halfDropped.dropout) featureless).run.run
        (Generator.ofSeed 0) = (.ok evaluation, after) ∧
      ∃ out ∈ evaluation.modules, ¬network.PooledAtLeast halfDropped.pad out := by
  let low (evaluation : Evaluation Rational) : Bool := evaluation.modules.any fun out =>
    decide (out.key = .action 0 0) && out.output.flat.any (Scalar.lt · halfDropped.pad)
  have found : (((network.run lowWalks (Tensor.dropout halfDropped.dropout) featureless).run.run
      (Generator.ofSeed 0)).1.toOption.any low) = true := by decide +kernel
  refine ⟨network_assembled, Rational.elu_aboveBound, ?_⟩
  rcases ran : (network.run lowWalks (Tensor.dropout halfDropped.dropout) featureless).run.run
    (Generator.ofSeed 0) with ⟨fault | evaluation, after⟩
  · rw [ran] at found
    cases found
  · rw [ran] at found
    obtain ⟨out, hout, same⟩ := List.any_eq_true.1 found
    obtain ⟨key, lower⟩ := Bool.and_eq_true_iff.1 same
    obtain ⟨x, hx, below⟩ := List.any_eq_true.1 lower
    refine ⟨evaluation, after, rfl, out, hout, fun bounded => ?_⟩
    have atLeast := bounded 0 0 (by decide) (of_decide_eq_true key) x hx (Rational.isNumber x)
    exact absurd (Rational.lt_iff.1 below) (not_lt.2 (Rational.le_iff.1 atLeast))

end WalkDomain

end SchemaNet
