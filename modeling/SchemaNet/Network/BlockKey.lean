import SchemaNet.Network.ModuleConfig
import SchemaNet.Network.Size

/-!
The weight blocks of a domain: one for each schema and each predicate at each layer
that has such modules. Their keys, names and shapes depend on the domain and the
architecture alone, so every problem of the domain can share them.
-/

namespace SchemaNet

/-- Whose ground instances share a block. -/
inductive BlockKind where
  | action (schema : SchemaId)
  | predicate (pred : PredId)
  deriving DecidableEq, Repr

structure BlockKey where
  layer : Nat
  kind : BlockKind
  deriving DecidableEq, Repr

namespace BlockKey

variable {α : Type}

def action (layer : Nat) (schema : SchemaId) : BlockKey := ⟨layer, .action schema⟩

def predicate (layer : Nat) (pred : PredId) : BlockKey := ⟨layer, .predicate pred⟩

/-- The keys of one layer, actions before predicates; the output layer has no predicates. -/
def ofLayer (domain : Domain) (arch : Architecture) (layer : Nat) : List BlockKey :=
  (List.range domain.numSchemas).map (action layer)
    ++ (if layer < arch.final then (List.range domain.numPredicates).map (predicate layer) else [])

def all (domain : Domain) (arch : Architecture) : List BlockKey :=
  (List.range (arch.final + 1)).flatMap (ofLayer domain arch)

def perLayer (domain : Domain) : Nat := domain.numSchemas + domain.numPredicates

def position? (domain : Domain) (arch : Architecture) (key : BlockKey) : Option Nat :=
  match key.kind with
  | .action id =>
    if key.layer ≤ arch.final ∧ id < domain.numSchemas then
      some (perLayer domain * key.layer + id)
    else
      none
  | .predicate id =>
    if key.layer < arch.final ∧ id < domain.numPredicates then
      some (perLayer domain * key.layer + (domain.numSchemas + id))
    else
      none

theorem ofLayer_length {domain : Domain} {arch : Architecture} {layer : Nat}
    (hidden : layer < arch.final) : (ofLayer domain arch layer).length = perLayer domain := by
  simp [ofLayer, hidden, perLayer]

theorem ofLayer_action {domain : Domain} {arch : Architecture} {layer id : Nat}
    (h : id < domain.numSchemas) : (ofLayer domain arch layer)[id]? = some (action layer id) := by
  rw [ofLayer, List.getElem?_append_left (by simp [h])]
  simp [h]

theorem ofLayer_predicate {domain : Domain} {arch : Architecture} {layer id : Nat}
    (hidden : layer < arch.final) (h : id < domain.numPredicates) :
    (ofLayer domain arch layer)[domain.numSchemas + id]? = some (predicate layer id) := by
  rw [ofLayer, List.getElem?_append_right (by simp), if_pos hidden]
  simp [h]

/-- An entry of one of several lists of one length, put behind each other; the last list may
have another length. -/
theorem getElem?_flatMap_range {β : Type} {part : Nat → List β} {count width : Nat}
    (size : ∀ layer < count, (part layer).length = width) {layer i : Nat} (h : layer ≤ count) :
    layer < count ∧ i < width ∨ layer = count →
    ((List.range (count + 1)).flatMap part)[width * layer + i]? = (part layer)[i]? := by
  induction count generalizing layer i with
  | zero =>
    intro _
    obtain rfl := Nat.le_zero.1 h
    simp
  | succ count ih =>
    have before : ((List.range (count + 1)).flatMap part).length = width * (count + 1) := by
      have fixed : ∀ n ≤ count + 1, ((List.range n).flatMap part).length = width * n := by
        intro n
        induction n with
        | zero => intro _; rfl
        | succ n ih =>
          intro bound
          rw [List.range_succ, List.flatMap_append, List.length_append, ih (by omega),
            List.flatMap_singleton, size n (by omega), Nat.mul_succ]
      exact fixed (count + 1) (Nat.le_refl _)
    rw [List.range_succ, List.flatMap_append, List.flatMap_singleton]
    rintro (⟨inside, bound⟩ | rfl)
    · have place : width * layer + i < width * (count + 1) :=
        Nat.lt_of_lt_of_le (Nat.add_lt_add_left bound _)
          (by rw [← Nat.mul_succ]; exact Nat.mul_le_mul_left _ inside)
      rw [List.getElem?_append_left (by rw [before]; exact place)]
      refine ih (fun l hl => size l (by omega)) (Nat.lt_succ_iff.1 inside) ?_
      rcases Nat.lt_or_eq_of_le (Nat.lt_succ_iff.1 inside) with inside | rfl
      · exact .inl ⟨inside, bound⟩
      · exact .inr rfl
    · rw [List.getElem?_append_right (by rw [before]; omega), before, Nat.add_sub_cancel_left]

theorem all_getElem?_of_position {domain : Domain} {arch : Architecture} {key : BlockKey} {i : Nat}
    (h : key.position? domain arch = some i) : (all domain arch)[i]? = some key := by
  obtain ⟨layer, kind⟩ := key
  cases kind with
  | action id =>
    simp only [position?] at h
    split at h
    · next inside =>
      obtain rfl := Option.some.inj h
      rw [all, getElem?_flatMap_range (fun _ => ofLayer_length) inside.1, ofLayer_action inside.2]
      · rfl
      · rcases Nat.lt_or_eq_of_le inside.1 with hidden | final
        · exact .inl ⟨hidden, Nat.lt_of_lt_of_le inside.2 (Nat.le_add_right _ _)⟩
        · exact .inr final
    · cases h
  | predicate id =>
    simp only [position?] at h
    split at h
    · next inside =>
      obtain rfl := Option.some.inj h
      rw [all, getElem?_flatMap_range (fun _ => ofLayer_length) (Nat.le_of_lt inside.1),
        ofLayer_predicate inside.1 inside.2]
      · rfl
      · exact .inl ⟨inside.1, Nat.add_lt_add_left inside.2 _⟩
    · cases h

theorem mem_all {domain : Domain} {arch : Architecture} {key : BlockKey} :
    key ∈ all domain arch ↔ (key.position? domain arch).isSome := by
  constructor
  · intro h
    obtain ⟨layer, inside, h⟩ := List.mem_flatMap.1 h
    have bound : layer ≤ arch.final := Nat.lt_succ_iff.1 (List.mem_range.1 inside)
    rcases List.mem_append.1 h with h | h
    · obtain ⟨id, hid, rfl⟩ := List.mem_map.1 h
      simp [position?, action, bound, List.mem_range.1 hid]
    · split at h
      · next hidden =>
        obtain ⟨id, hid, rfl⟩ := List.mem_map.1 h
        simp [position?, predicate, hidden, List.mem_range.1 hid]
      · cases h
  · intro h
    obtain ⟨i, h⟩ := Option.isSome_iff_exists.1 h
    exact List.mem_of_getElem? (all_getElem?_of_position h)

/-- The name of the block under which it is stored; a key of a schema or predicate that
the domain does not have has none. -/
def name (domain : Domain) (arch : Architecture) (key : BlockKey) :
    Except (NetworkError α) String :=
  match key.kind with
  | .action id =>
    match domain.schemas[id]? with
    | some schema =>
      .ok (if key.layer = arch.final then s!"final_act_{schema.name}"
        else s!"hid_{key.layer}_act_{schema.name}")
    | none => .error .outOfRange
  | .predicate id =>
    match domain.predicates[id]? with
    | some predicate => .ok s!"hid_{key.layer}_prop_{predicate}"
    | none => .error .outOfRange

def orOutOfRange {β : Type} : Option β → Except (NetworkError α) β
  | some value => .ok value
  | none => .error .outOfRange

/-- The width of what a module sees of its own entity at the previous layer. -/
def skipWidth (arch : Architecture) (width? : Nat → Option Nat) (layer : Nat) :
    Except (NetworkError α) Nat :=
  if arch.skip ∧ 0 < layer then orOutOfRange (width? (layer - 1)) else .ok 0

/-- The input and output widths of a block. An action module of the first layer sees the
truth and the goal flag of the proposition in each slot, and the exogenous features; a
later one sees the outputs of those propositions. A proposition module sees one pooled
output of the same layer for each slot that its predicate fills. The width of the input must
be a word. -/
def shape (domain : Domain) (arch : Architecture) (key : BlockKey) :
    Except (NetworkError α) (Nat × Nat) := do
  let layer := key.layer
  match key.kind with
  | .action id =>
    if arch.final < layer then throw (.missingBlock s!"act layer {layer}")
    if domain.numSchemas ≤ id then throw .outOfRange
    let slots := (domain.relevantPredicates id).length
    let inputs ←
      if layer = 0 then
        pure (2 * slots + arch.extraDim)
      else do
        let skip ← skipWidth arch arch.actWidth? layer
        pure (slots * (← orOutOfRange (arch.propWidth? (layer - 1))) + skip)
    return (← Size.word inputs, ← orOutOfRange (arch.actWidth? layer))
  | .predicate id =>
    if arch.final ≤ layer then throw (.missingBlock s!"prop layer {layer}")
    if domain.numPredicates ≤ id then throw .outOfRange
    let slots ← (domain.relevantSlots id).mapError .planning
    let skip ← skipWidth arch arch.propWidth? layer
    let inputs ← Size.word (slots.length * (← orOutOfRange (arch.actWidth? layer)) + skip)
    return (inputs, ← orOutOfRange (arch.propWidth? layer))

end BlockKey

end SchemaNet
