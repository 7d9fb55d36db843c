import SchemaNet.Network.Store
import SchemaNet.Proofs.Network.Modules

/-!
Where weights come from. An allocation, a restored snapshot and an update of a store go
through the keys one by one and check or make each block in the shape of its key, so all of
them give weights of the right shapes, for whatever state they run on.
-/

namespace SchemaNet

namespace Stateful

variable {α σ β γ : Type}

section Run

variable {first : Stateful α σ β} {next : β → Stateful α σ γ} {before between : σ}

theorem run_ofExcept {result : Except (NetworkError α) β} :
    (Stateful.ofExcept result : Stateful α σ β).run.run before = (result, before) := rfl

theorem run_ofExcept_eq_ok {result : Except (NetworkError α) β} {value : β} {after : σ} :
    (Stateful.ofExcept result : Stateful α σ β).run.run before = (.ok value, after) ↔
      result = .ok value ∧ before = after :=
  Prod.mk.injEq .. ▸ Iff.rfl

theorem run_lift_eq_ok {action : StateM σ β} {value : β} {after : σ} :
    (ExceptT.lift action : Stateful α σ β).run.run before = (.ok value, after) ↔
      action.run before = (value, after) := by
  refine ⟨fun h => ?_, fun h => ?_⟩
  · obtain ⟨result, last⟩ := Prod.mk.inj h
    exact Prod.ext (Except.ok.inj result) last
  · show ((.ok (action.run before).1, (action.run before).2) : Except (NetworkError α) β × σ) = _
    rw [h]

theorem run_bind_get (next : σ → Stateful α σ γ) :
    (get >>= next).run.run before = (next before).run.run before := rfl

theorem run_bind_set (next : PUnit → Stateful α σ γ) :
    (set between >>= next).run.run before = (next ⟨⟩).run.run between := rfl

theorem run_bind_ok {value : β} (h : first.run.run before = (.ok value, between))
    (next : β → Stateful α σ γ) :
    (first >>= next).run.run before = (next value).run.run between := by
  show ExceptT.bindCont next (first.run.run before).1 (first.run.run before).2 = _
  rw [h]
  rfl

theorem run_bind_error {fault : NetworkError α}
    (h : first.run.run before = (.error fault, between)) (next : β → Stateful α σ γ) :
    (first >>= next).run.run before = (.error fault, between) := by
  show ExceptT.bindCont next (first.run.run before).1 (first.run.run before).2 = _
  rw [h]
  rfl

theorem run_map (f : β → γ) (action : Stateful α σ β) (before : σ) :
    (f <$> action).run.run before =
      ((action.run.run before).1.map f, (action.run.run before).2) := by
  rw [← bind_pure_comp]
  rcases own : action.run.run before with ⟨fault | value, after⟩
  · exact run_bind_error own _
  · exact run_bind_ok own _

theorem run_bind_eq_ok {value : γ} {after : σ} :
    (first >>= next).run.run before = (.ok value, after) ↔ ∃ middle between,
      first.run.run before = (.ok middle, between) ∧
        (next middle).run.run between = (.ok value, after) := by
  rcases own : first.run.run before with ⟨fault | middle, between⟩
  · rw [run_bind_error own]
    exact ⟨(fun h => nomatch h), fun ⟨_, _, h, _⟩ => nomatch h⟩
  · rw [run_bind_ok own]
    refine ⟨fun h => ⟨middle, between, rfl, h⟩, fun ⟨_, _, same, h⟩ => ?_⟩
    obtain ⟨result, rfl⟩ := Prod.mk.inj same
    obtain rfl := Except.ok.inj result
    exact h

end Run

/-- Every success has a property, from whatever state. -/
def Ensures (action : Stateful α σ β) (good : β → Prop) : Prop :=
  ∀ before value after, action.run.run before = (.ok value, after) → good value

variable {good : β → Prop} {post : γ → Prop}

theorem Ensures.bind {first : Stateful α σ β} {next : β → Stateful α σ γ} (h : first.Ensures good)
    (later : ∀ value, good value → Ensures (next value) post) : Ensures (first >>= next) post := by
  intro before value after ran
  obtain ⟨middle, between, own, ran⟩ := run_bind_eq_ok.1 ran
  exact later middle (h before middle between own) between value after ran

theorem Ensures.imp {action : Stateful α σ β} (h : action.Ensures good) {weaker : β → Prop}
    (weaken : ∀ value, good value → weaker value) : action.Ensures weaker :=
  fun before value after ran => weaken value (h before value after ran)

theorem Ensures.any (action : Stateful α σ β) : action.Ensures fun _ => True :=
  fun _ _ _ _ => trivial

theorem Ensures.ofExcept {result : Except (NetworkError α) β}
    (h : ∀ value, result = .ok value → good value) :
    Ensures (Stateful.ofExcept result : Stateful α σ β) good := by
  intro before value after ran
  exact h value (Prod.mk.inj ran).1

theorem Ensures.pure {value : β} (h : good value) :
    Ensures (Pure.pure value : Stateful α σ β) good := by
  intro before other after ran
  obtain rfl := Except.ok.inj (Prod.mk.inj ran).1
  exact h

theorem Ensures.throw {fault : NetworkError α} :
    Ensures (MonadExcept.throw fault : Stateful α σ β) good := by
  intro before value after ran
  cases (Prod.mk.inj ran).1

theorem Ensures.lift {action : StateM σ β} (h : ∀ before, good (action.run before).1) :
    Ensures (ExceptT.lift action : Stateful α σ β) good := by
  intro before value after ran
  obtain rfl := Except.ok.inj (Prod.mk.inj ran).1
  exact h before

end Stateful

namespace Weights

variable {α σ β : Type} {domain : Domain} {arch : Architecture}

theorem collect_cons {m : Type → Type} [Monad m] (f : BlockKey → m β) (key : BlockKey)
    (rest : List BlockKey) : collect f (key :: rest) = (do
      let first ← f key
      let others ← collect f rest
      return ⟨first :: others.1, by simp [others.2]⟩) := rfl

theorem mapM_eq_collect {m : Type → Type} [Monad m] [LawfulMonad m] (f : BlockKey → m β)
    (keys : List BlockKey) : keys.mapM f = (·.1) <$> collect f keys := by
  induction keys with
  | nil =>
    show pure [] = (·.1) <$> (pure ⟨[], rfl⟩ : m { results : List β // results.length = 0 })
    rw [map_pure]
  | cons key rest ih => simp [collect_cons, ih]

theorem collect_ensures {f : BlockKey → Stateful α σ β} {good : BlockKey → β → Prop}
    {keys : List BlockKey} (h : ∀ key ∈ keys, (f key).Ensures (good key)) :
    Stateful.Ensures (collect f keys) fun results => List.Forall₂ good keys results.1 := by
  induction keys with
  | nil => exact .pure .nil
  | cons key rest ih =>
    refine .bind (h key List.mem_cons_self) fun first hfirst => ?_
    have later := ih fun other hother => h other (List.mem_cons_of_mem _ hother)
    refine .bind later fun others hothers => ?_
    exact .pure (.cons hfirst hothers)

/-- A block in the shape of its key. -/
def Shapes (domain : Domain) (arch : Architecture) (key : BlockKey) (block : WeightBlock α) :
    Prop :=
  (key.shape domain arch : Except (NetworkError α) _) = .ok (block.inputs, block.outputs) ∧
    block.b.length = block.outputs

/-- A block with the dimensions of another pair of numbers has that shape. -/
theorem shapes_of_dims {key : BlockKey} {shape : Nat × Nat} {block : WeightBlock α}
    (hshape : (key.shape domain arch : Except (NetworkError α) _) = .ok shape)
    (dims : block.dims = [shape.1, shape.2, shape.2]) : Shapes domain arch key block := by
  rw [WeightBlock.dims, List.cons.injEq, List.cons.injEq, List.cons.injEq] at dims
  obtain ⟨inputs, outputs, biases, -⟩ := dims
  exact ⟨by rw [hshape, inputs, outputs], biases.trans outputs.symm⟩

theorem wellShaped_of_blocks {blocks : List (WeightBlock α)}
    (aligned : blocks.length = (BlockKey.all domain arch).length)
    (arch_valid : (arch.validate : Except (NetworkError α) Unit) = .ok ())
    (domain_valid : domain.validate = .ok ())
    (shaped : List.Forall₂ (Shapes domain arch) (BlockKey.all domain arch) blocks) :
    WellShaped ⟨domain, arch, blocks, aligned⟩ :=
  wellShaped_of_entries arch_valid domain_valid fun _ hentry =>
    (List.forall₂_iff_zip.1 shaped).2 hentry

/-- What each block has from being made, all blocks that are built have. -/
theorem build_ensures_each {make : BlockKey → Nat × Nat → Stateful α σ (WeightBlock α)}
    {good : BlockKey → WeightBlock α → Prop}
    (each : domain.validate = .ok () → ∀ key ∈ BlockKey.all domain arch, ∀ shape,
      (key.shape domain arch : Except (NetworkError α) _) = .ok shape →
        (make key shape).Ensures (good key)) :
    (build domain arch make).Ensures fun weights =>
      weights.domain = domain ∧ weights.arch = arch ∧
        (arch.validate : Except (NetworkError α) Unit) = .ok () ∧ domain.validate = .ok () ∧
        List.Forall₂ good (BlockKey.all domain arch) weights.blocks := by
  refine .bind (.ofExcept fun _ h => h) fun _ archValid => ?_
  refine .bind (.ofExcept fun _ h => mapError_eq_ok.1 h) fun _ domainValid => ?_
  refine .bind (collect_ensures fun key mem => .bind (.ofExcept fun _ h => h) fun shape hshape =>
    each domainValid key mem shape hshape) fun blocks made => ?_
  exact .pure ⟨rfl, rfl, archValid, domainValid, made⟩

theorem build_ensures {make : BlockKey → Nat × Nat → Stateful α σ (WeightBlock α)}
    (fits : ∀ key shape,
      (make key shape).Ensures fun block => block.dims = [shape.1, shape.2, shape.2]) :
    (build domain arch make).Ensures fun weights =>
      weights.domain = domain ∧ weights.arch = arch ∧ weights.WellShaped := by
  refine (build_ensures_each fun _ key _ shape hshape =>
    (fits key shape).imp fun block dims => shapes_of_dims hshape dims).imp fun weights => ?_
  rintro ⟨rfl, rfl, archValid, domainValid, shaped⟩
  exact ⟨rfl, rfl, wellShaped_of_blocks weights.aligned archValid domainValid shaped⟩

theorem glorot_ensures [Scalar α] [WordSource σ] (inputs outputs : Nat) :
    Stateful.Ensures (Memory.glorot inputs outputs : Stateful α σ (WeightBlock α)) fun block =>
      block.dims = [inputs, outputs, outputs] := by
  refine .bind (.any _) fun _ _ => .bind (.any _) fun _ _ => .lift fun before => ?_
  show [inputs, outputs, (List.replicate outputs Scalar.zero).length] = _
  rw [List.length_replicate]

theorem allocate_wellShaped [Scalar α] {seed : UInt64} {weights : Weights α}
    (h : allocate domain arch seed = .ok weights) :
    weights.domain = domain ∧ weights.arch = arch ∧ weights.WellShaped :=
  build_ensures (fun _ shape => glorot_ensures shape.1 shape.2) (Generator.ofSeed seed) weights _
    (Prod.ext h rfl)

end Weights

namespace Snapshot

variable {α : Type} {domain : Domain} {arch : Architecture}

theorem takeBlock_ensures (key : BlockKey) (shape : Nat × Nat) :
    (takeBlock domain arch key shape : Stateful α _ _).Ensures fun block =>
      block.dims = [shape.1, shape.2, shape.2] := by
  refine .bind (.any _) fun name _ => .bind (.any _) fun remaining _ => ?_
  split
  · exact .throw
  · next block _ =>
    refine .bind (.any _) fun _ _ => ?_
    dsimp only
    split
    · exact .throw
    · next fits => exact .pure (not_not.1 fits)

theorem restore_wellShaped {snapshot : Snapshot α} {weights : Weights α}
    (h : snapshot.restore domain arch = .ok weights) :
    weights.domain = domain ∧ weights.arch = arch ∧ weights.WellShaped := by
  unfold restore at h
  dsimp only at h
  split at h
  · cases h
  · rcases ran : (Weights.build domain arch (takeBlock domain arch)).run snapshot.blocks with
      ⟨fault | built, remaining⟩
    · rw [ran] at h
      cases h
    · rw [ran] at h
      dsimp only at h
      split at h
      · obtain rfl := Except.ok.inj h
        exact Weights.build_ensures takeBlock_ensures snapshot.blocks built remaining ran
      · cases h

end Snapshot

namespace WeightStore

variable {α σ : Type} {store : WeightStore α}

theorem updateBlock_ensures {weights : Weights α}
    {change : BlockKey → WeightBlock α → StateM σ (WeightBlock α)} (key : BlockKey) :
    (updateBlock weights change key).Ensures fun changed =>
      ∃ block, weights.get? key = some block ∧ changed.dims = block.dims := by
  refine .bind (.ofExcept fun block h => Weights.block_eq_ok.1 h) fun block found => ?_
  refine .bind (.any _) fun changed _ => ?_
  dsimp only
  split
  · exact .bind (.any _) fun _ _ => .throw
  · next kept => exact .pure ⟨block, found, not_not.1 kept⟩

theorem update_wellShaped (shaped : store.weights.WellShaped)
    (change : BlockKey → WeightBlock α → StateM σ (WeightBlock α)) :
    (store.update change).Ensures fun changed => changed.weights.domain = store.weights.domain ∧
      changed.weights.arch = store.weights.arch ∧ changed.weights.WellShaped := by
  refine .bind (Weights.collect_ensures fun key _ => updateBlock_ensures key) fun blocks kept => ?_
  refine .pure ⟨rfl, rfl, Weights.wellShaped_of_blocks blocks.2 shaped.arch_valid
    shaped.domain_valid (kept.imp ?_)⟩
  rintro key changed ⟨block, found, same⟩
  obtain ⟨shape, biased⟩ := shaped.shaped key block found
  exact Weights.shapes_of_dims shape (same.trans (by rw [WeightBlock.dims, biased]))

end WeightStore

end SchemaNet
