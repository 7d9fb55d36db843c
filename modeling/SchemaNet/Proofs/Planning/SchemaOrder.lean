import SchemaNet.Proofs.Planning.Adjacency

/-!
The actions of a problem listed schema by schema, and the place of each action in that
list. The instances of the earlier schemas come first, so the place is their number plus
the action's position among the instances of its own schema.
-/

namespace SchemaNet

theorem countP_lt_succ {β : Type} (f : β → Nat) (xs : List β) (n : Nat) :
    xs.countP (fun x => decide (f x < n + 1)) =
      xs.countP (fun x => decide (f x < n)) + xs.countP (fun x => f x == n) := by
  induction xs with
  | nil => rfl
  | cons x rest ih =>
    rw [List.countP_cons, List.countP_cons, List.countP_cons, ih]
    simp only [decide_eq_true_eq, beq_iff_eq]
    split_ifs <;> omega

namespace Problem

variable {problem : Problem}

/-- The actions listed schema by schema. -/
def bySchema (problem : Problem) : List GroundAction :=
  (List.range problem.domain.numSchemas).flatMap problem.instances

theorem instances_length (problem : Problem) (s : Nat) :
    (problem.instances s).length =
      (List.range problem.numActions).countP fun id => problem.actSchema id == s := by
  rw [← (problem.picks_schemaActions s).length_eq, schemaActions, List.countP_eq_length_filter]

theorem schemaOffset_eq (problem : Problem) (s : Nat) :
    problem.schemaOffset s = ((List.range s).flatMap problem.instances).length := by
  induction s with
  | zero => simp [schemaOffset]
  | succ s ih =>
    rw [List.range_succ, List.flatMap_append, List.length_append, ← ih, List.flatMap_singleton,
      instances_length]
    exact countP_lt_succ problem.actSchema _ s

theorem bySchema_length (problem : Problem) :
    problem.bySchema.length = problem.schemaOffset problem.domain.numSchemas := by
  rw [bySchema, schemaOffset_eq]

theorem schemaPosition_action {action : GroundAction} (h : action ∈ problem.actions) :
    problem.domain.schemaPosition action.schema < problem.domain.numSchemas := by
  obtain ⟨schema, hschema, inst⟩ := exists_schema h
  rw [← inst.name]
  exact Domain.schemaPosition_lt hschema

theorem schemaOffset_numSchemas (problem : Problem) :
    problem.schemaOffset problem.domain.numSchemas = problem.numActions := by
  have all : (List.range problem.numActions).countP
      (fun id => decide (problem.actSchema id < problem.domain.numSchemas))
        = (List.range problem.numActions).length := by
    refine List.countP_eq_length.2 fun id hid => ?_
    have h := List.getElem?_eq_getElem (l := problem.actions) (List.mem_range.1 hid)
    rw [decide_eq_true_eq, actSchema_eq h]
    exact schemaPosition_action (List.getElem_mem _)
  rw [schemaOffset, all, List.length_range]

/-- The place of an action when the actions are listed schema by schema. -/
def place (problem : Problem) (id : ActId) : Nat :=
  problem.schemaOffset (problem.actSchema id) + problem.actPosition id

theorem getElem?_place {id : Nat} {action : GroundAction} (h : problem.actions[id]? = some action) :
    problem.bySchema[problem.place id]? = some action := by
  have position := getElem?_actPosition h
  have inside := (List.getElem?_eq_some_iff.1 position).1
  rw [bySchema, place, actSchema_eq h, schemaOffset_eq,
    getElem?_flatMap_range_offset (schemaPosition_action (List.mem_of_getElem? h)) inside, position]

theorem picks_place (problem : Problem) :
    Picks problem.bySchema ((List.range problem.numActions).map problem.place) problem.actions := by
  rw [Picks, List.forall₂_map_left_iff]
  exact (picks_range problem.actions).imp fun _ _ h => getElem?_place h

theorem place_lt {id : Nat} (h : id < problem.numActions) :
    problem.place id < problem.numActions := by
  have read := getElem?_place (List.getElem?_eq_getElem (l := problem.actions) h)
  rw [← schemaOffset_numSchemas, ← bySchema_length]
  exact (List.getElem?_eq_some_iff.1 read).1

theorem mergeIndices_eq (problem : Problem) :
    problem.mergeIndices = .ok ((List.range problem.numActions).map problem.place) := by
  refine mapM_eq_ok_map fun id hid => ?_
  exact if_pos ⟨place_lt (List.mem_range.1 hid), problem.schemaOffset_numSchemas⟩

end Problem

end SchemaNet
