import SchemaNet.Proofs.Planning.Acceptance

/-!
The construction of a problem from listed entities. It succeeds exactly on lists that are
accepted, in any order, and the problem holds the listed entities and no others.
-/

namespace SchemaNet

section Distinct

variable {α κ : Type} [DecidableEq κ] {key : α → κ}

theorem mem_map_distinctBy {k : κ} {xs : List α} :
    k ∈ (distinctBy key xs).map key ↔ k ∈ xs.map key := by
  induction xs with
  | nil => rfl
  | cons x rest ih =>
    rw [distinctBy, List.map_cons, List.map_cons, List.mem_cons, List.mem_cons, ← ih]
    simp only [List.mem_map, List.mem_filter, decide_eq_true_eq]
    grind

theorem nodup_map_distinctBy (xs : List α) : ((distinctBy key xs).map key).Nodup := by
  induction xs with
  | nil => exact .nil
  | cons x rest ih =>
    rw [distinctBy, List.map_cons, List.nodup_cons]
    refine ⟨fun mem => ?_, ih.sublist (List.filter_sublist.map key)⟩
    obtain ⟨y, hy, same⟩ := List.mem_map.1 mem
    exact absurd same (by simpa using (List.mem_filter.1 hy).2)

theorem distinctBy_eq_self {xs : List α} (distinct : (xs.map key).Nodup) :
    distinctBy key xs = xs := by
  induction xs with
  | nil => rfl
  | cons x rest ih =>
    rw [List.map_cons, List.nodup_cons] at distinct
    rw [distinctBy, ih distinct.2, List.filter_eq_self.2]
    intro y mem
    exact decide_eq_true fun same => distinct.1 (same ▸ List.mem_map_of_mem mem)

theorem distinctBy_append_singleton (xs : List α) (x : α) :
    distinctBy key (xs ++ [x]) =
      distinctBy key xs ++ if key x ∈ xs.map key then [] else [x] := by
  induction xs with
  | nil => rfl
  | cons y rest ih =>
    rw [List.cons_append, distinctBy, distinctBy, ih, List.filter_append, List.cons_append]
    by_cases own : key x = key y
    · by_cases known : key x ∈ rest.map key <;> simp [own]
    · by_cases known : key x ∈ rest.map key <;> simp [own, known]

end Distinct

theorem increasing_of_distinct {α : Type} {ident : α → String} {xs : List α}
    (sorted : xs.Pairwise fun a b => ident a ≤ ident b) (distinct : (xs.map ident).Nodup) :
    xs.Pairwise fun a b => ident a < ident b := by
  have increasing := distinctBy_pairwise_lt sorted
  rwa [distinctBy_eq_self distinct] at increasing

theorem canonical_eq_self {α : Type} {ident : α → String} {xs : List α}
    (sorted : xs.Pairwise fun a b => ident a ≤ ident b) : canonical ident xs = xs :=
  List.mergeSort_of_pairwise (sorted.imp decide_eq_true)

theorem canonical_idem {α : Type} (ident : α → String) (xs : List α) :
    canonical ident (canonical ident xs) = canonical ident xs :=
  canonical_eq_self (canonical_pairwise ident xs)

/-- A list that strictly increases along a key is in canonical order and has no repetition. -/
theorem distinctBy_canonical_eq_self {α : Type} {ident : α → String} {xs : List α}
    (increasing : xs.Pairwise fun a b => ident a < ident b) :
    distinctBy ident (canonical ident xs) = xs := by
  have sorted : xs.Pairwise fun a b => ident a ≤ ident b :=
    increasing.imp fun before =>
      String.not_lt.1 fun after => String.lt_irrefl _ (String.lt_trans before after)
  have distinct : (xs.map ident).Nodup := by
    refine List.pairwise_map.2 (increasing.imp fun {a b} before same => ?_)
    rw [same] at before
    exact String.lt_irrefl _ before
  rw [canonical_eq_self sorted, distinctBy_eq_self distinct]

theorem distinctBy_canonical_idem {α : Type} (ident : α → String) (xs : List α) :
    distinctBy ident (canonical ident (distinctBy ident (canonical ident xs))) =
      distinctBy ident (canonical ident xs) :=
  distinctBy_canonical_eq_self (distinctBy_pairwise_lt (canonical_pairwise ident xs))

namespace Problem

/-- A problem with exactly the listed entities, whatever their order. -/
structure Lists (problem : Problem) (domain : Domain) (actions : List GroundAction)
    (props goals : List GroundAtom) : Prop where
  domain_eq : problem.domain = domain
  actions : problem.actions.Perm actions
  props : problem.props.Perm props
  goals : ∀ ident, ident ∈ problem.goals.map GroundAtom.ident ↔ ident ∈ goals.map GroundAtom.ident

variable {domain : Domain} {actions actions' : List GroundAction}
  {props props' goals goals' : List GroundAtom}

theorem Accepted.of_perm (h : Accepted domain actions props goals)
    (sameActions : actions'.Perm actions) (sameProps : props'.Perm props)
    (sameGoals : ∀ ident,
      ident ∈ goals'.map GroundAtom.ident ↔ ident ∈ goals.map GroundAtom.ident) :
    Accepted domain actions' props' goals' where
  props_distinct := (sameProps.map _).nodup_iff.2 h.props_distinct
  props_admissible prop hprop := h.props_admissible prop (sameProps.mem_iff.1 hprop)
  goals_listed goal hgoal := by
    obtain ⟨listed, hlisted, same⟩ := List.mem_map.1 ((sameGoals _).1 (List.mem_map_of_mem hgoal))
    rw [(sameProps.map _).mem_iff, ← same]
    exact h.goals_listed listed hlisted
  actions_distinct := (sameActions.map _).nodup_iff.2 h.actions_distinct
  actions_instantiate action haction := by
    obtain ⟨schema, hschema, inst⟩ := h.actions_instantiate action (sameActions.mem_iff.1 haction)
    refine ⟨schema, hschema, inst.name, inst.count, inst.binds, fun k held relevant hk hr => ?_⟩
    obtain ⟨prop, hprop, same, asked⟩ := inst.listed k held relevant hk hr
    exact ⟨prop, sameProps.mem_iff.2 hprop, same, asked⟩

theorem build_eq_error {name : Symbol} {fault : PlanningError} :
    build name domain actions props goals = .error fault ↔
      fault? domain (canonical GroundAction.ident actions) (canonical GroundAtom.ident props)
        (distinctBy GroundAtom.ident (canonical GroundAtom.ident goals)) = some fault := by
  unfold build
  dsimp only
  split
  · next found => simp [found]
  · next clean => simp [clean]

theorem fields_of_build {name : Symbol} {problem : Problem}
    (h : build name domain actions props goals = .ok problem) :
    problem.domain = domain ∧ problem.actions = canonical GroundAction.ident actions ∧
      problem.props = canonical GroundAtom.ident props ∧
        problem.goals = distinctBy GroundAtom.ident (canonical GroundAtom.ident goals) := by
  unfold build at h
  dsimp only at h
  split at h
  · cases h
  · obtain rfl := Except.ok.inj h
    exact ⟨rfl, rfl, rfl, rfl⟩

theorem build_lists {name : Symbol} {problem : Problem}
    (h : build name domain actions props goals = .ok problem) :
    problem.Lists domain actions props goals := by
  obtain ⟨domainEq, actionsEq, propsEq, goalsEq⟩ := fields_of_build h
  refine ⟨domainEq, actionsEq ▸ canonical_perm _ _, propsEq ▸ canonical_perm _ _, fun ident => ?_⟩
  rw [goalsEq, mem_map_distinctBy, ((canonical_perm _ _).map _).mem_iff]

theorem Lists.accepted {problem : Problem} (h : problem.Lists domain actions props goals) :
    Accepted domain actions props goals := by
  rw [← h.domain_eq]
  exact problem.accepted.of_perm h.actions.symm h.props.symm fun ident => (h.goals ident).symm

/-- The canonical order does not depend on the order of the lists. -/
theorem Lists.unique {problem other : Problem} (h : problem.Lists domain actions props goals)
    (h' : other.Lists domain actions props goals) :
    problem.actions = other.actions ∧ problem.props = other.props := by
  have accepted := h.accepted
  constructor
  · refine (h.actions.trans h'.actions.symm).eq_of_pairwise ?_ problem.actions_sorted
      other.actions_sorted
    intro a b ha hb before after
    exact List.inj_on_of_nodup_map accepted.actions_distinct (h.actions.mem_iff.1 ha)
      (h'.actions.mem_iff.1 hb) (String.le_antisymm before after)
  · refine (h.props.trans h'.props.symm).eq_of_pairwise ?_ problem.props_sorted other.props_sorted
    intro a b ha hb before after
    exact List.inj_on_of_nodup_map accepted.props_distinct (h.props.mem_iff.1 ha)
      (h'.props.mem_iff.1 hb) (String.le_antisymm before after)

theorem exists_build_iff {name : Symbol} :
    (∃ problem, build name domain actions props goals = .ok problem) ↔
      Accepted domain actions props goals := by
  refine ⟨fun ⟨problem, h⟩ => (build_lists h).accepted, fun accepted => ?_⟩
  have sorted : fault? domain (canonical GroundAction.ident actions)
      (canonical GroundAtom.ident props)
      (distinctBy GroundAtom.ident (canonical GroundAtom.ident goals)) = none := by
    rw [fault?_eq_none (canonical_pairwise _ _) (canonical_pairwise _ _)]
    refine accepted.of_perm (canonical_perm _ _) (canonical_perm _ _) fun ident => ?_
    rw [mem_map_distinctBy, ((canonical_perm _ _).map _).mem_iff]
  unfold build
  dsimp only
  split
  · next fault found =>
    rw [sorted] at found
    cases found
  · exact ⟨_, rfl⟩

end Problem

end SchemaNet
