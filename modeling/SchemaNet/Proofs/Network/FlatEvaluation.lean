import Mathlib.Data.Nat.Find
import SchemaNet.Proofs.Network.FlatInputs

/-!
What a network makes of the flat inputs of an encoder. If the encoder fits the architecture, a
batch of flat inputs is cut into the stacked parts it was made of. So it is evaluated as these
parts are, and nothing but the scores can be a fault.
-/

namespace SchemaNet

variable {α : Type}

/-! ## Faults of a distribution -/

/-- Some row of the scores has no distribution. -/
def NetworkError.OfScores (fault : NetworkError α) : Prop :=
  ∃ row, fault = .allActionsDisabled row ∨ fault = .nonFiniteOutput row

theorem RowByRow.fault {batch : Nat} {whole : Except (NetworkError α) (Grid α)}
    {single : Nat → Except (NetworkError α) (Grid α)} (h : RowByRow batch whole single)
    {fault : NetworkError α} (failed : whole = .error fault) : fault.OfScores := by
  have some_failed : ∃ b, b < batch ∧ ¬∃ result, single b = .ok result := by
    by_contra none
    obtain ⟨result, ran⟩ := h.exists_iff.2 fun b hb =>
      Classical.byContradiction fun without => none ⟨b, hb, without⟩
    exact nomatch failed.symm.trans ran
  -- the first row without a result is the one that is reported
  classical
  obtain ⟨inside, without⟩ := Nat.find_spec some_failed
  have earlier : ∀ b < Nat.find some_failed, ∃ result, single b = .ok result := by
    intro b hb
    by_contra none
    exact Nat.find_min some_failed hb ⟨Nat.lt_trans hb inside, none⟩
  cases own : single (Nat.find some_failed) with
  | ok result => exact absurd ⟨result, own⟩ without
  | error reported =>
    obtain ⟨cause, notWidths, -, same⟩ := h.first_failed _ inside earlier reported own
    obtain rfl := Except.error.inj (failed.symm.trans same)
    cases cause with
    | allDisabled => exact ⟨_, .inl rfl⟩
    | nonFinite => exact ⟨_, .inr rfl⟩
    | widths => exact absurd rfl notWidths

namespace PolicyNetwork

variable [Scalar α] {net : PolicyNetwork α} {weights : Weights α}

theorem forward_fault {input : MaskedInput α} (sized : input.Sized net.problem net.arch)
    (fits : net.Matches weights) (shaped : weights.WellShaped) {fault : NetworkError α}
    (failed : net.forward weights input = .error fault) : fault.OfScores := by
  obtain ⟨scores, ran⟩ := exists_logits_iff.2 ⟨sized.unmasked, fits, shaped.coherent⟩
  exact (forward_rowByRow sized ran).fault failed

end PolicyNetwork

/-! ## Limits -/

namespace Memory

variable {layout : InputLayout} {flat : Grid α} {parts : MaskedInput α}

theorem split_of_indexable (h : layout.split flat = .ok parts)
    (held : Size.isIndexable parts.extra.dims) : split layout flat = .ok parts := by
  have dims := (InputLayout.split_eq_ok_iff.1 h).2.extra_dims
  rw [dims] at held
  rw [split, h, ok_bind, Size.word_eq_ok.2 ⟨Size.succ_lt_wordLimit held, rfl⟩, ok_bind, checkShaped,
    dims, if_pos held]
  rfl

theorem forwardFlat_outcome [Scalar α] {net : PolicyNetwork α} (weights : Weights α)
    (h : split net.layout flat = .ok parts) :
    (forwardFlat net weights flat).outcome = (forward net weights parts).outcome := by
  rw [forwardFlat, Logged.bind_outcome, h]
  rfl

end Memory

/-! ## Encoders and networks -/

section Contract

variable [Scalar α]

/-- A batch of flat inputs and its stacked parts are the same to a network. For weights of the
right shapes, nothing but a row of the scores is ever reported as long as all arrays can be
held. -/
structure SameEvaluation (net : PolicyNetwork α) (weights : Weights α) (flat : Grid α)
    (stacked : MaskedInput α) : Prop where
  split_eq : net.layout.split flat = .ok stacked
  checked : net.checkMasked stacked = .ok ()
  forward_eq : net.forwardFlat weights flat = net.forward weights stacked
  memory_eq : Size.isIndexable stacked.extra.dims →
    (Memory.forwardFlat net weights flat).outcome = (Memory.forward net weights stacked).outcome
  fault : weights.WellShaped → net.Matches weights → ∀ fault,
    net.forwardFlat weights flat = .error fault → fault.OfScores
  memory_fault : weights.WellShaped → net.Matches weights →
    PolicyNetwork.FlatFits net.problem weights flat.height → ∀ fault,
      (Memory.forwardFlat net weights flat).outcome.1 = .error fault → fault.OfScores

/-- What an encoder with these features does, and what it does for the networks of its problem. -/
structure ObservationEncoder.Faithful (encoder : ObservationEncoder α) (features : List Feature) :
    Prop where
  names : encoder.columnNames = (Column.all encoder.problem features).map Column.name
  /-- A state has a row with one entry for each column, which shows what the column says. -/
  encoded : ∀ state history, state.Describes encoder.problem →
    (.count ∈ features → encoder.problem.Knows history) →
      ∃ row, encoder.encode state history = .ok row ∧ row.length = encoder.columnNames.length ∧
        List.Forall₂ (fun column x => column.Shows state history x)
          (Column.all encoder.problem features) row
  /-- A history with a foreign action is refused exactly if actions are counted. -/
  refused : ∀ state history, state.Describes encoder.problem → ¬encoder.problem.Knows history →
    ((∃ fault, encoder.encode state history = .error fault) ↔ .count ∈ features)
  layout_eq : ∀ net : PolicyNetwork α, net.problem = encoder.problem →
    encoder.checkArch net.arch = .ok () → encoder.layout = net.layout
  /-- The network of an accepted architecture evaluates a batch as the parts it is made of. -/
  batches : ∀ net : PolicyNetwork α, net.problem = encoder.problem →
    encoder.checkArch net.arch = .ok () → ∀ observations : List (CanonicalState × List ActId),
      (∀ seen ∈ observations, seen.1.Describes encoder.problem ∧
        (.count ∈ features → encoder.problem.Knows seen.2)) →
      ∃ flat stacked, encoder.encodeBatch observations = .ok flat ∧
        encoder.Stacks observations stacked ∧ ∀ weights, SameEvaluation net weights flat stacked

theorem PolicyNetwork.sameEvaluation {net : PolicyNetwork α} (weights : Weights α) {flat : Grid α}
    {stacked : MaskedInput α} (split : net.layout.split flat = .ok stacked) :
    SameEvaluation net weights flat stacked := by
  have faults : weights.WellShaped → net.Matches weights → ∀ fault,
      net.forwardFlat weights flat = .error fault → fault.OfScores := by
    intro shaped fits fault failed
    rw [forwardFlat_eq split] at failed
    exact forward_fault (split_sized split).1 fits shaped failed
  refine ⟨split, checkMasked_eq_ok.2 (split_sized split).1, forwardFlat_eq split, fun held => ?_,
    faults, fun shaped fits held fault failed => ?_⟩
  · exact Memory.forwardFlat_outcome weights (Memory.split_of_indexable split held)
  · rw [memory_forwardFlat fits split, (checkFlat_eq_ok fits shaped).2 held, ok_bind] at failed
    exact faults shaped fits fault failed

namespace ObservationEncoder

variable {encoder : ObservationEncoder α} {features : List Feature}

omit [Scalar α] in
theorem layout_eq_of_checkArch {net : PolicyNetwork α} (same : net.problem = encoder.problem)
    (accepted : encoder.checkArch net.arch = .ok ()) : encoder.layout = net.layout := by
  unfold checkArch at accepted
  split at accepted
  · next fits => rw [PolicyNetwork.layout, same, fits, layout]
  · cases accepted

theorem exists_encode_iff {state : CanonicalState} {history : List ActId}
    (provides : encoder.features.Provides features) (describes : state.Describes encoder.problem) :
    (∃ row, encoder.encode state history = .ok row) ↔
      (.count ∈ features → encoder.problem.Knows history) := by
  constructor
  · rintro ⟨row, ran⟩ counted
    rw [← Problem.foreignAction?_eq_none]
    cases found : encoder.problem.foreignAction? history with
    | none => rfl
    | some id => exact nomatch ran.symm.trans (encode_eq_error provides describes counted found)
  · exact fun known => ⟨_, encode_eq_ok provides describes known⟩

theorem faithful_of_provides [CountingScalar α] (provides : encoder.features.Provides features) :
    encoder.Faithful features := by
  have names := Column.map_name encoder provides
  refine ⟨names.symm, fun state history describes known => ?_,
    fun state history describes foreign => ?_, fun net => layout_eq_of_checkArch,
    fun net same accepted observations each => ?_⟩
  · refine ⟨_, encode_eq_ok provides describes known, ?_, ?_⟩
    · rw [← names, List.length_map, List.length_map]
    · rw [List.forall₂_map_right_iff, List.forall₂_same]
      exact fun column _ => column.shows_value state history
  · have accepted : (∃ row, encoder.encode state history = .ok row) ↔ _ :=
      exists_encode_iff provides describes
    constructor
    · rintro ⟨fault, failed⟩
      by_contra uncounted
      obtain ⟨row, ran⟩ := accepted.2 fun counted => absurd counted uncounted
      exact nomatch failed.symm.trans ran
    · intro counted
      cases ran : encoder.encode state history with
      | error fault => exact ⟨fault, rfl⟩
      | ok row => exact absurd (accepted.1 ⟨row, ran⟩ counted) foreign
  · obtain ⟨flat, stacked, encoded, split, parts⟩ := exists_split_encodeBatch fun seen mem =>
      (exists_encode_iff provides (each seen mem).1).2 (each seen mem).2
    rw [layout_eq_of_checkArch same accepted] at split
    exact ⟨flat, stacked, encoded, parts, fun weights => net.sameEvaluation weights split⟩

end ObservationEncoder

/-- An encoder of any stack of the built-in sources is faithful to the features of its leaves. -/
theorem FeatureTree.encoder_faithful [CountingScalar α] (problem : Problem)
    (parts : List FeatureTree) :
    (⟨problem, (stack parts).source⟩ : ObservationEncoder α).Faithful (stack parts).features :=
  ObservationEncoder.faithful_of_provides (provides_source (stack parts))

end Contract

namespace WalkDomain

instance : CountingScalar Whole where
  one_ne_zero := by decide
  add_one _ _ := rfl

def parts : List FeatureTree := [.stack [], .stack [.leaf .count]]

def encoder : ObservationEncoder Whole := ⟨problem, (FeatureTree.stack parts).source⟩

/-- The same encoder in single precision. -/
def encoder32 : ObservationEncoder Float32 := ⟨problem, (FeatureTree.stack parts).source⟩

def state : CanonicalState := ⟨[true, false, false, true], [false, true, false]⟩

/-- The first walk is enabled and was taken twice; the network reads this from the flat input. -/
theorem walk_observed : state.Describes problem ∧ problem.Knows [1, 1] ∧
    encoder32.Faithful [.count] ∧
    encoder.encode state [1, 1] = .ok ([0, 1, 0, 0, 2, 0, 1, 0, 0, 1].map Whole.mk) ∧
    ∃ net flat stacked, PolicyNetwork.forWeights problem weights config = .ok net ∧
      encoder.checkArch net.arch = .ok () ∧ encoder.encodeBatch [(state, [1, 1])] = .ok flat ∧
      net.forwardFlat weights flat = net.forward weights stacked := by
  have describes : state.Describes problem := ⟨rfl, rfl⟩
  have known : problem.Knows [1, 1] := by decide
  have row : encoder.encode state [1, 1] =
      .ok ([0, 1, 0, 0, 2, 0, 1, 0, 0, 1].map Whole.mk) := by rfl
  have domain : weights.domain = problem.domain := rfl
  have valid : config.validate = .ok () := rfl
  obtain ⟨net, hnet, same, layers, -⟩ :=
    PolicyNetwork.exists_forWeights weights_wellShaped domain valid
  have accepted : encoder.checkArch net.arch = .ok () := by rw [layers]; rfl
  have faithful : encoder.Faithful _ := FeatureTree.encoder_faithful problem parts
  obtain ⟨flat, stacked, encoded, -, evaluated⟩ := faithful.batches net same accepted
    [(state, [1, 1])] fun seen mem => by
      obtain rfl := List.mem_singleton.1 mem
      exact ⟨describes, fun _ => known⟩
  have precise : encoder32.Faithful [.count] := FeatureTree.encoder_faithful problem parts
  exact ⟨describes, known, precise, row, net, flat, stacked, hnet, accepted, encoded,
    (evaluated weights).forward_eq⟩

end WalkDomain

end SchemaNet
