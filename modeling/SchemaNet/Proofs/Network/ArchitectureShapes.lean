import SchemaNet.Proofs.Network.SnapshotMatching

/-!
What the shapes of the blocks show of an architecture. The number of blocks shows the number of
layers, the outputs show the widths, and the inputs show the number of features and whether a
module also sees its own output. Nothing is seen of modules that a domain does not have, and
without a hidden layer no module could see an output of its own.
-/

namespace SchemaNet

variable {α : Type} {domain : Domain} {arch other : Architecture}

/-- Two architectures that no block of a domain tells apart. -/
structure Architecture.AlikeFor (domain : Domain) (arch other : Architecture) : Prop where
  acts : 0 < domain.numSchemas → arch.hidden.map LayerSizes.act = other.hidden.map LayerSizes.act
  extraDim : 0 < domain.numSchemas → arch.extraDim = other.extraDim
  skip : 0 < domain.numSchemas → arch.hidden ≠ [] → arch.skip = other.skip
  props : 0 < domain.numPredicates →
    arch.hidden.map LayerSizes.prop = other.hidden.map LayerSizes.prop

theorem Architecture.AlikeFor.refl (domain : Domain) (arch : Architecture) :
    arch.AlikeFor domain arch :=
  ⟨fun _ => rfl, fun _ => rfl, fun _ _ => rfl, fun _ => rfl⟩

/-! ## Widths -/

theorem Domain.numSchemas_pos (valid : domain.validate = .ok ())
    (some_pred : 0 < domain.numPredicates) : 0 < domain.numSchemas := by
  obtain ⟨schema, mem, -⟩ := Domain.validate_eq_ok.1 valid _ (List.getElem_mem some_pred)
  exact List.length_pos_of_mem mem

namespace Architecture

theorem final_eq_of_acts (h : arch.hidden.map LayerSizes.act = other.hidden.map LayerSizes.act) :
    arch.final = other.final := by
  simpa [final] using congrArg List.length h

theorem actWidth?_eq (h : arch.hidden.map LayerSizes.act = other.hidden.map LayerSizes.act) :
    arch.actWidth? = other.actWidth? := by
  funext layer
  rw [actWidth?, actWidth?, final_eq_of_acts h, ← List.getElem?_map, h, List.getElem?_map]

theorem propWidth?_eq (h : arch.hidden.map LayerSizes.prop = other.hidden.map LayerSizes.prop) :
    arch.propWidth? = other.propWidth? := by
  funext layer
  rw [propWidth?, propWidth?, ← List.getElem?_map, h, List.getElem?_map]

/-- As many layers have the same widths if those do that there are. -/
theorem map_hidden_eq (final : arch.final = other.final) {f : LayerSizes → Nat}
    (h : ∀ layer < arch.final, (arch.hidden[layer]?).map f = (other.hidden[layer]?).map f) :
    arch.hidden.map f = other.hidden.map f := by
  refine List.ext_getElem? fun layer => ?_
  rw [List.getElem?_map, List.getElem?_map]
  rcases Nat.lt_or_ge layer arch.final with hidden | beyond
  · exact h layer hidden
  · have beyond' : other.final ≤ layer := final ▸ beyond
    rw [List.getElem?_eq_none beyond, List.getElem?_eq_none beyond']

theorem actWidth?_of_hidden {layer : Nat} (hidden : layer < arch.final) :
    arch.actWidth? layer = (arch.hidden[layer]?).map LayerSizes.act :=
  if_neg (Nat.ne_of_lt hidden)

theorem exists_propWidth {layer : Nat} (hidden : layer < arch.final) :
    ∃ width, arch.propWidth? layer = some width :=
  ⟨_, by rw [propWidth?, List.getElem?_eq_getElem hidden]; rfl⟩

/-- With a predicate and a hidden layer all of an architecture is seen. -/
theorem AlikeFor.eq (h : arch.AlikeFor domain other) (some_schema : 0 < domain.numSchemas)
    (some_pred : 0 < domain.numPredicates) (some_layer : arch.hidden ≠ []) : arch = other := by
  obtain ⟨hidden, extraDim, skip⟩ := arch
  obtain ⟨hidden', extraDim', skip'⟩ := other
  obtain rfl : extraDim = extraDim' := h.extraDim some_schema
  obtain rfl : skip = skip' := h.skip some_schema some_layer
  have sizes : hidden.map (fun sizes => (sizes.act, sizes.prop)) =
      hidden'.map fun sizes => (sizes.act, sizes.prop) := by
    rw [← List.zip_map', ← List.zip_map']
    exact congrArg₂ List.zip (h.acts some_schema) (h.props some_pred)
  have inj : Function.Injective fun sizes : LayerSizes => (sizes.act, sizes.prop) := by
    rintro ⟨act, prop⟩ ⟨act', prop'⟩ same
    simpa using same
  obtain rfl := List.map_injective_iff.2 inj sizes
  rfl

end Architecture

/-! ## Keys and names -/

namespace BlockKey

theorem all_congr (h : arch.final = other.final) : all domain arch = all domain other := by
  unfold all ofLayer
  rw [h]

theorem name_congr (h : arch.final = other.final) (key : BlockKey) :
    (key.name domain arch : Except (NetworkError α) String) = key.name domain other := by
  unfold name
  rw [h]

theorem hidden_length {layers : Nat} (hidden : layers ≤ arch.final) :
    ((List.range layers).flatMap (ofLayer domain arch)).length = layers * perLayer domain := by
  induction layers with
  | zero => rw [Nat.zero_mul]; rfl
  | succ layers ih =>
    rw [List.range_succ, List.flatMap_append, List.flatMap_singleton, List.length_append,
      ih (Nat.le_of_succ_le hidden), ofLayer_length hidden, Nat.succ_mul]

theorem all_length (domain : Domain) (arch : Architecture) :
    (all domain arch).length = arch.final * perLayer domain + domain.numSchemas := by
  rw [all, List.range_succ, List.flatMap_append, List.flatMap_singleton, List.length_append,
    hidden_length (Nat.le_refl _)]
  simp [ofLayer]

theorem all_eq_nil (valid : domain.validate = .ok ()) (none : domain.numSchemas = 0)
    (arch : Architecture) : all domain arch = [] := by
  have no_pred : domain.numPredicates = 0 := by
    by_contra some_pred
    exact (Nat.ne_of_gt (Domain.numSchemas_pos valid (Nat.pos_of_ne_zero some_pred))) none
  rw [← List.length_eq_zero_iff, all_length, perLayer, none, no_pred, Nat.mul_zero]

/-- The number of the blocks shows the number of the layers, if there are blocks. -/
theorem all_eq_of_length (valid : domain.validate = .ok ())
    (h : (all domain arch).length = (all domain other).length) :
    all domain arch = all domain other := by
  rcases Nat.eq_zero_or_pos domain.numSchemas with none | some_schema
  · rw [all_eq_nil valid none, all_eq_nil valid none]
  · rw [all_length, all_length] at h
    have positive : 0 < perLayer domain := Nat.lt_add_right _ some_schema
    exact all_congr (Nat.eq_of_mul_eq_mul_right positive (Nat.add_right_cancel h))

theorem final_eq_of_all (some_schema : 0 < domain.numSchemas)
    (h : all domain arch = all domain other) : arch.final = other.final := by
  have last : ∀ arch : Architecture, action arch.final 0 ∈ all domain arch := fun arch =>
    action_mem_all.2 ⟨Nat.le_refl _, some_schema⟩
  exact Nat.le_antisymm (action_mem_all.1 (h ▸ last arch)).1 (action_mem_all.1 (h ▸ last other)).1

theorem numSchemas_pos_of_mem (valid : domain.validate = .ok ()) {key : BlockKey}
    (mem : key ∈ all domain arch) : 0 < domain.numSchemas := by
  by_contra none
  rw [all_eq_nil valid (Nat.eq_zero_of_not_pos none)] at mem
  cases mem

/-! ## Shapes -/

/-- The blocks of both architectures have the same names and shapes. -/
structure SharedShapes (α : Type) (domain : Domain) (arch other : Architecture) : Prop where
  all_eq : all domain arch = all domain other
  shapes : ∀ key ∈ all domain arch, ∃ inputs outputs,
    (key.shape domain arch : Except (NetworkError α) (Nat × Nat)) = .ok (inputs, outputs) ∧
      (key.shape domain other : Except (NetworkError α) (Nat × Nat)) = .ok (inputs, outputs)

/-- Without predicates there are no slots. -/
theorem relevantPredicates_eq_nil {id : Nat} (no_pred : domain.numPredicates = 0)
    (known : id < domain.numSchemas) : domain.relevantPredicates id = [] := by
  refine List.eq_nil_iff_forall_not_mem.2 fun pred mem => ?_
  exact absurd (Weights.relevantPredicates_lt known mem) (no_pred ▸ Nat.not_lt_zero pred)

theorem shape_congr (valid : domain.validate = .ok ()) (h : arch.AlikeFor domain other)
    {key : BlockKey} (mem : key ∈ all domain arch) :
    (key.shape domain arch : Except (NetworkError α) (Nat × Nat)) = key.shape domain other := by
  have some_schema := numSchemas_pos_of_mem valid mem
  have final := Architecture.final_eq_of_acts (h.acts some_schema)
  have width := Architecture.actWidth?_eq (h.acts some_schema)
  obtain ⟨layer, kind⟩ := key
  cases kind with
  | action id =>
    obtain ⟨inside, known⟩ := action_mem_all.1 mem
    cases layer with
    | zero => simp [shape, final, width, h.extraDim some_schema]
    | succ layer =>
      have skip := h.skip some_schema (List.ne_nil_of_length_pos (Nat.zero_lt_of_lt inside))
      rcases Nat.eq_zero_or_pos domain.numPredicates with no_pred | some_pred
      · -- it does not matter how wide the propositions would be
        have slots := relevantPredicates_eq_nil no_pred known
        obtain ⟨prop, hprop⟩ := Architecture.exists_propWidth inside
        obtain ⟨prop', hprop'⟩ := Architecture.exists_propWidth (final ▸ inside)
        simp [shape, skipWidth, final, width, skip, slots, hprop, hprop', orOutOfRange, ok_bind]
      · have props := Architecture.propWidth?_eq (h.props some_pred)
        simp [shape, skipWidth, final, width, props, skip]
  | predicate id =>
    obtain ⟨hidden, known⟩ := predicate_mem_all.1 mem
    have skip := h.skip some_schema (List.ne_nil_of_length_pos (Nat.zero_lt_of_lt hidden))
    have props := Architecture.propWidth?_eq (h.props (Nat.zero_lt_of_lt known))
    simp [shape, skipWidth, final, width, props, skip]

theorem actWidth?_of_shape {layer id inputs outputs : Nat} (inside : layer ≤ arch.final)
    (known : id < domain.numSchemas)
    (h : ((action layer id).shape domain arch : Except (NetworkError α) _) =
      .ok (inputs, outputs)) : arch.actWidth? layer = some outputs := by
  cases layer with
  | zero => exact (firstShape_eq_ok known h).2
  | succ layer =>
    obtain ⟨_, _, -, -, -, own⟩ := laterShape_eq_ok inside known h
    exact own

theorem propWidth?_of_shape {layer id inputs outputs : Nat} (hidden : layer < arch.final)
    (known : id < domain.numPredicates)
    (h : ((predicate layer id).shape domain arch : Except (NetworkError α) _) =
      .ok (inputs, outputs)) : arch.propWidth? layer = some outputs := by
  obtain ⟨_, _, -, -, -, own⟩ := predicateShape_eq_ok hidden known h
  exact own

namespace SharedShapes

theorem of_alike (valid : domain.validate = .ok ()) (alike : arch.AlikeFor domain other)
    (shaped : ∀ key ∈ all domain arch, ∃ inputs outputs,
      (key.shape domain arch : Except (NetworkError α) (Nat × Nat)) = .ok (inputs, outputs)) :
    SharedShapes α domain arch other := by
  refine ⟨?_, fun key mem => ?_⟩
  · rcases Nat.eq_zero_or_pos domain.numSchemas with none | some_schema
    · rw [all_eq_nil valid none, all_eq_nil valid none]
    · exact all_congr (Architecture.final_eq_of_acts (alike.acts some_schema))
  · obtain ⟨inputs, outputs, own⟩ := shaped key mem
    exact ⟨inputs, outputs, own, shape_congr valid alike mem ▸ own⟩

variable (h : SharedShapes α domain arch other)
include h

theorem acts_eq (some_schema : 0 < domain.numSchemas) :
    arch.hidden.map LayerSizes.act = other.hidden.map LayerSizes.act := by
  have final := final_eq_of_all some_schema h.all_eq
  refine Architecture.map_hidden_eq final fun layer hidden => ?_
  have hidden' : layer < other.final := final ▸ hidden
  obtain ⟨inputs, outputs, own, theirs⟩ :=
    h.shapes _ (action_mem_all.2 ⟨Nat.le_of_lt hidden, some_schema⟩)
  rw [← Architecture.actWidth?_of_hidden hidden, ← Architecture.actWidth?_of_hidden hidden',
    actWidth?_of_shape (Nat.le_of_lt hidden) some_schema own,
    actWidth?_of_shape (Nat.le_of_lt hidden') some_schema theirs]

theorem props_eq (some_schema : 0 < domain.numSchemas) (some_pred : 0 < domain.numPredicates) :
    arch.hidden.map LayerSizes.prop = other.hidden.map LayerSizes.prop := by
  have final := final_eq_of_all some_schema h.all_eq
  refine Architecture.map_hidden_eq final fun layer hidden => ?_
  obtain ⟨inputs, outputs, own, theirs⟩ := h.shapes _ (predicate_mem_all.2 ⟨hidden, some_pred⟩)
  exact (propWidth?_of_shape hidden some_pred own).trans
    (propWidth?_of_shape (final ▸ hidden) some_pred theirs).symm

theorem extraDim_eq (some_schema : 0 < domain.numSchemas) : arch.extraDim = other.extraDim := by
  obtain ⟨inputs, outputs, own, theirs⟩ :=
    h.shapes _ (action_mem_all.2 ⟨Nat.zero_le arch.final, some_schema⟩)
  exact Nat.add_left_cancel ((firstShape_eq_ok some_schema own).1.symm.trans
    (firstShape_eq_ok some_schema theirs).1)

/-- A module of the second layer sees its own output, which has a channel, or it does not. -/
theorem skip_eq (widths : ∀ sizes ∈ arch.hidden, sizes.act ≠ 0)
    (some_schema : 0 < domain.numSchemas) (some_layer : arch.hidden ≠ []) :
    arch.skip = other.skip := by
  have final := final_eq_of_all some_schema h.all_eq
  have second : 0 + 1 ≤ arch.final := List.length_pos_of_ne_nil some_layer
  obtain ⟨inputs, outputs, own, theirs⟩ := h.shapes _ (action_mem_all.2 ⟨second, some_schema⟩)
  obtain ⟨props, skip, wide, channels, same, -⟩ := laterShape_eq_ok second some_schema own
  obtain ⟨props', skip', wide', channels', same', -⟩ :=
    laterShape_eq_ok (final ▸ second) some_schema theirs
  have slots : (domain.relevantPredicates 0).length * props =
      (domain.relevantPredicates 0).length * props' := by
    rcases Nat.eq_zero_or_pos domain.numPredicates with no_pred | some_pred
    · rw [relevantPredicates_eq_nil no_pred some_schema, List.length_nil, Nat.zero_mul,
        Nat.zero_mul]
    · rw [Architecture.propWidth?_eq (h.props_eq some_schema some_pred), wide'] at wide
      rw [Option.some.inj wide]
  have both : skip = skip' := by omega
  have positive : arch.actWidth? 0 ≠ some 0 := by
    rw [Architecture.actWidth?_of_hidden second, Ne, Option.map_eq_some_iff]
    rintro ⟨sizes, first, none⟩
    exact widths sizes (List.mem_of_getElem? first) none
  rw [← Architecture.actWidth?_eq (h.acts_eq some_schema)] at channels'
  subst both
  cases flag : arch.skip with
  | true =>
    cases flag' : other.skip with
    | true => rfl
    | false =>
      rw [flag, if_pos rfl] at channels
      rw [flag', if_neg Bool.false_ne_true] at channels'
      exact absurd (channels' ▸ channels) positive
  | false =>
    cases flag' : other.skip with
    | true =>
      rw [flag, if_neg Bool.false_ne_true] at channels
      rw [flag', if_pos rfl] at channels'
      exact absurd (channels ▸ channels') positive
    | false => rfl

theorem alike (valid : domain.validate = .ok ())
    (widths : ∀ sizes ∈ arch.hidden, sizes.act ≠ 0) : arch.AlikeFor domain other :=
  ⟨h.acts_eq, h.extraDim_eq, h.skip_eq widths, fun some_pred =>
    h.props_eq (Domain.numSchemas_pos valid some_pred) some_pred⟩

end SharedShapes

end BlockKey

end SchemaNet
