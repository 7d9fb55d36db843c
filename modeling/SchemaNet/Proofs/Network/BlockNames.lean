import SchemaNet.Proofs.Network.Widths
import SchemaNet.Proofs.Planning.Domain

/-!
The keys of a domain do not repeat, and neither do the names that their blocks are stored
under. A name shows whether it belongs to the output layer, then the layer, which ends at an
underscore, then the kind, and what is left is the name of the schema or the predicate.
-/

namespace SchemaNet

namespace BlockKey

variable {α β : Type} {domain : Domain} {arch : Architecture}

/-! ## Keys -/

theorem ofLayer_nodup (layer : Nat) : (ofLayer domain arch layer).Nodup := by
  have actions : ((List.range domain.numSchemas).map (action layer)).Nodup :=
    List.nodup_range.map fun _ _ same => BlockKind.action.inj (BlockKey.mk.inj same).2
  have predicates : ((List.range domain.numPredicates).map (predicate layer)).Nodup :=
    List.nodup_range.map fun _ _ same => BlockKind.predicate.inj (BlockKey.mk.inj same).2
  unfold ofLayer
  split
  · refine actions.append predicates fun key haction hpredicate => ?_
    obtain ⟨id, -, rfl⟩ := List.mem_map.1 haction
    obtain ⟨other, -, same⟩ := List.mem_map.1 hpredicate
    cases (BlockKey.mk.inj same).2
  · rw [List.append_nil]
    exact actions

theorem layer_of_mem {layer : Nat} {key : BlockKey} (h : key ∈ ofLayer domain arch layer) :
    key.layer = layer := by
  rcases List.mem_append.1 h with h | h
  · obtain ⟨id, -, rfl⟩ := List.mem_map.1 h
    rfl
  · split at h
    · obtain ⟨id, -, rfl⟩ := List.mem_map.1 h
      rfl
    · cases h

theorem all_nodup (domain : Domain) (arch : Architecture) : (all domain arch).Nodup := by
  refine List.nodup_flatMap.2 ⟨fun layer _ => ofLayer_nodup layer, ?_⟩
  refine List.nodup_range.imp fun apart key h h' => apart ?_
  rw [← layer_of_mem h, layer_of_mem h']

/-- The position of a key is its place among the keys. -/
theorem position?_of_getElem? {key : BlockKey} {i : Nat} (h : (all domain arch)[i]? = some key) :
    key.position? domain arch = some i := by
  obtain ⟨j, place⟩ := Option.isSome_iff_exists.1 (mem_all.1 (List.mem_of_getElem? h))
  have read := all_getElem?_of_position place
  obtain ⟨inside, -⟩ := List.getElem?_eq_some_iff.1 read
  rw [place, (List.getElem?_inj inside (all_nodup domain arch)).1 (read.trans h.symm)]

/-! ## Names -/

/-- The letters of the name of a block. -/
inductive Spelled (domain : Domain) (arch : Architecture) : BlockKey → List Char → Prop where
  | final {id : SchemaId} {schema : Schema} :
    domain.schemas[id]? = some schema →
    Spelled domain arch (action arch.final id) ("final_act_".toList ++ schema.name.toList)
  | action {layer : Nat} {id : SchemaId} {schema : Schema} :
    domain.schemas[id]? = some schema →
    Spelled domain arch (action layer id)
      ("hid_".toList ++ (Nat.toDigits 10 layer ++ '_' :: ("act_".toList ++ schema.name.toList)))
  | predicate {layer : Nat} {id : PredId} {pred : Symbol} :
    domain.predicates[id]? = some pred →
    Spelled domain arch (predicate layer id)
      ("hid_".toList ++ (Nat.toDigits 10 layer ++ '_' :: ("prop_".toList ++ pred.toList)))

theorem spelled_of_name {key : BlockKey} {name : String}
    (h : (key.name domain arch : Except (NetworkError α) String) = .ok name) :
    Spelled domain arch key name.toList := by
  obtain ⟨layer, kind⟩ := key
  cases kind with
  | action id =>
    rw [BlockKey.name] at h
    dsimp only at h
    split at h
    · next schema known =>
      obtain rfl := Except.ok.inj h
      by_cases final : layer = arch.final
      · subst final
        rw [if_pos rfl]
        have letters : ("final_act_" ++ schema.name).toList =
            "final_act_".toList ++ schema.name.toList := String.toList_append
        exact letters ▸ .final known
      · rw [if_neg final]
        have letters : ("hid_" ++ Nat.repr layer ++ "_act_" ++ schema.name).toList =
            "hid_".toList ++
              (Nat.toDigits 10 layer ++ '_' :: ("act_".toList ++ schema.name.toList)) := by
          simp
        exact letters ▸ .action known
    · cases h
  | predicate id =>
    rw [BlockKey.name] at h
    dsimp only at h
    split at h
    · next pred known =>
      obtain rfl := Except.ok.inj h
      have letters : ("hid_" ++ Nat.repr layer ++ "_prop_" ++ pred).toList = "hid_".toList ++
          (Nat.toDigits 10 layer ++ '_' :: ("prop_".toList ++ pred.toList)) := by
        simp
      exact letters ▸ .predicate known
    · cases h

theorem digits_mark_inj {layer other : Nat} {rest tail : List Char}
    (h : Nat.toDigits 10 layer ++ '_' :: rest = Nat.toDigits 10 other ++ '_' :: tail) :
    layer = other ∧ rest = tail := by
  have starts : ∀ rest : List Char, ∀ c ∈ ('_' :: rest).head?, c = '_' := by simp
  obtain ⟨digits, same⟩ := append_mark_inj Nat.underscore_not_in_toDigits
    Nat.underscore_not_in_toDigits (starts rest) (starts tail) h
  have read := congrArg (Nat.ofDigitChars 10 · 0) digits
  rw [Nat.ofDigitChars_ten_toDigits, Nat.ofDigitChars_ten_toDigits] at read
  exact ⟨read, (List.cons.inj same).2⟩

theorem schema_of_letters {id other : SchemaId} {schema schema' : Schema}
    (known : domain.schemas[id]? = some schema) (known' : domain.schemas[other]? = some schema')
    (same : schema.name.toList = schema'.name.toList) : id = other := by
  rw [← domain.schemaPosition_of_getElem? known, ← domain.schemaPosition_of_getElem? known',
    String.toList_inj.1 same]

theorem predicate_of_letters {id other : PredId} {pred pred' : Symbol}
    (known : domain.predicates[id]? = some pred) (known' : domain.predicates[other]? = some pred')
    (same : pred.toList = pred'.toList) : id = other := by
  rw [← domain.predicatePosition_of_getElem? known,
    ← domain.predicatePosition_of_getElem? known', String.toList_inj.1 same]

theorem Spelled.inj {key other : BlockKey} {letters letters' : List Char}
    (h : Spelled domain arch key letters) (h' : Spelled domain arch other letters')
    (same : letters = letters') : key = other := by
  cases h with
  | final known =>
    cases h' with
    | final known' =>
      obtain rfl := schema_of_letters known known' (List.append_cancel_left same)
      rfl
    | action | predicate => simp at same
  | action known =>
    cases h' with
    | final known' => simp at same
    | action known' =>
      obtain ⟨rfl, rest⟩ := digits_mark_inj (List.append_cancel_left same)
      obtain rfl := schema_of_letters known known' (List.append_cancel_left rest)
      rfl
    | predicate known' =>
      -- behind the layer one name goes on with the letter of an action, the other does not
      obtain ⟨-, rest⟩ := digits_mark_inj (List.append_cancel_left same)
      simp at rest
  | predicate known =>
    cases h' with
    | final known' => simp at same
    | action known' =>
      obtain ⟨-, rest⟩ := digits_mark_inj (List.append_cancel_left same)
      simp at rest
    | predicate known' =>
      obtain ⟨rfl, rest⟩ := digits_mark_inj (List.append_cancel_left same)
      obtain rfl := predicate_of_letters known known' (List.append_cancel_left rest)
      rfl

/-- No two keys have one name. -/
theorem name_inj {key other : BlockKey} {name : String}
    (h : (key.name domain arch : Except (NetworkError α) String) = .ok name)
    (h' : (other.name domain arch : Except (NetworkError β) String) = .ok name) : key = other :=
  (spelled_of_name h).inj (spelled_of_name h') rfl

end BlockKey

end SchemaNet
