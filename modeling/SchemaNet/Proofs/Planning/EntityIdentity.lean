import Mathlib.Data.List.Duplicate
import Mathlib.Tactic.TFAE
import SchemaNet.Proofs.Planning.Construction
import SchemaNet.Proofs.Planning.Identifiers

/-!
Entities and their identifiers. Equality, order and hashes of propositions and actions look
at identifiers only. Where no name has a space an identifier gives its names back, so these
compare the names, and a problem leaves out or refuses an entity only if another one of the
same names is listed.
-/

namespace SchemaNet

variable {α : Type} {ident : α → String} {names : α → List Symbol} {xs : List α}

/-- Entities with identifiers of their own have names of their own. -/
theorem nodup_names (made : ∀ x, ident x = (String.singleton ' ').intercalate (names x))
    (distinct : (xs.map ident).Nodup) : (xs.map names).Nodup := by
  have images : (xs.map names).map (String.singleton ' ').intercalate = xs.map ident := by
    rw [List.map_map]
    exact List.map_congr_left fun x _ => (made x).symm
  exact .of_map (String.singleton ' ').intercalate (images ▸ distinct)

/-- Names that stand twice behind a repeated identifier. -/
theorem duplicate_names (decoded : ∀ x ∈ xs, namesOf (ident x) = names x) {key : String}
    (h : List.Duplicate key (xs.map ident)) : List.Duplicate (namesOf key) (xs.map names) := by
  have images : (xs.map ident).map namesOf = xs.map names := by
    rw [List.map_map]
    exact List.map_congr_left decoded
  rw [List.duplicate_iff_sublist] at h ⊢
  exact images ▸ h.map namesOf

/-- Three ways to compare entities by identifier, and the comparison of their names. -/
theorem identOf_tfae {head other : Symbol} {args others : List Symbol}
    (plain : ∀ name ∈ head :: args, name.Plain) (plain' : ∀ name ∈ other :: others, name.Plain) :
    [identOf head args = identOf other others,
      compare (identOf head args) (identOf other others) = .eq,
      ∀ (σ : Type) (write : String → σ → σ) (state : σ),
        write (identOf head args) state = write (identOf other others) state,
      head = other ∧ args = others].TFAE := by
  tfae_have 1 ↔ 2 := Std.LawfulEqOrd.compare_eq_iff_eq.symm
  tfae_have 1 → 3 := fun same _ _ _ => by rw [same]
  -- The hash that keeps the whole text tells all identifiers apart.
  tfae_have 3 → 1 := fun same => same String (fun text _ => text) ""
  tfae_have 1 ↔ 4 := (identOf_eq_iff plain plain').trans List.cons_eq_cons
  tfae_finish

/-! ## Repetitions -/

/-- An element with the identifier of the one just before it. -/
theorem duplicate_of_neighbour {front back : List α} {x : α}
    (repeated : front.reverse.head?.map ident = some (ident x)) :
    List.Duplicate (ident x) ((front ++ x :: back).map ident) := by
  rw [List.head?_reverse, Option.map_eq_some_iff] at repeated
  obtain ⟨y, last, same⟩ := repeated
  have seen : ident x ∈ front.map ident := same ▸ List.mem_map_of_mem (List.mem_of_getLast? last)
  rw [List.duplicate_iff_sublist, List.map_append, List.map_cons]
  exact (List.singleton_sublist.2 seen).append
    (List.singleton_sublist.2 (List.mem_cons_self (a := ident x)))

/-- A repetition in a list is one in every order of the list. -/
theorem duplicate_of_perm {xs ys : List String} {x : String} (same : xs.Perm ys)
    (h : List.Duplicate x xs) : List.Duplicate x ys := by
  rw [List.duplicate_iff_two_le_count] at h ⊢
  rwa [← same.count_eq]

namespace PlanningError

/-- A fault that reports a repetition names an identifier that is listed twice. -/
def RepeatsListed (actions : List GroundAction) (props : List GroundAtom) : PlanningError → Prop
  | duplicateProposition ident => List.Duplicate ident (props.map GroundAtom.ident)
  | duplicateAction ident => List.Duplicate ident (actions.map GroundAction.ident)
  | _ => True

end PlanningError

namespace Problem

variable {domain : Domain} {actions : List GroundAction} {props goals : List GroundAtom}
  {fault : PlanningError}

theorem repeatsListed_of_prop {before : List GroundAtom} {prop : GroundAtom}
    (repeated : before.head?.map GroundAtom.ident = some prop.ident →
      List.Duplicate prop.ident (props.map GroundAtom.ident))
    (h : propFault domain before prop = some fault) : fault.RepeatsListed actions props := by
  unfold propFault at h
  split at h
  · cases h
    trivial
  · split at h
    · next same =>
      cases h
      exact repeated same
    · split at h
      · cases h
      · cases h
        trivial

theorem repeatsListed_of_slot {known : List GroundAtom} {action : String} {slot : Nat}
    {relevant : LiftedAtom} {bound held : GroundAtom}
    (h : slotFault known action slot relevant bound held = some fault) :
    fault.RepeatsListed actions props := by
  unfold slotFault at h
  split at h
  · cases h
    trivial
  · split at h
    · cases h
      trivial
    · split at h
      · cases h
        trivial
      · cases h

theorem repeatsListed_of_slots {known : List GroundAtom} {action : String} {slot : Nat}
    {relevants : List LiftedAtom} {bounds helds : List GroundAtom}
    (h : slotsFault known action slot relevants bounds helds = some fault) :
    fault.RepeatsListed actions props := by
  induction slot, relevants, bounds, helds using slotsFault.induct with
  | case1 slot relevant relevants bound bounds held helds ih =>
    rw [slotsFault, Option.orElse_eq_some] at h
    rcases h with h | ⟨-, h⟩
    · exact repeatsListed_of_slot h
    · exact ih h
  | case2 slot relevants bounds helds short =>
    rw [slotsFault] at h
    · cases h
    · exact short

theorem repeatsListed_of_action {known : List GroundAtom} {before : List GroundAction}
    {action : GroundAction}
    (repeated : before.head?.map GroundAction.ident = some action.ident →
      List.Duplicate action.ident (actions.map GroundAction.ident))
    (h : actionFault domain known before action = some fault) :
    fault.RepeatsListed actions props := by
  unfold actionFault at h
  split at h
  · next same =>
    cases h
    exact repeated same
  · split at h
    · cases h
      trivial
    · split at h
      · cases h
        trivial
      · split at h
        · cases h
          trivial
        · exact repeatsListed_of_slots h

theorem repeatsListed_of_fault? (h : fault? domain actions props goals = some fault) :
    fault.RepeatsListed actions props := by
  rw [fault?, Option.orElse_eq_some, Option.orElse_eq_some] at h
  rcases h with h | ⟨-, h | ⟨-, h⟩⟩
  · obtain ⟨front, prop, back, rfl, failed⟩ := exists_split_of_firstFault h
    rw [List.append_nil] at failed
    exact repeatsListed_of_prop duplicate_of_neighbour failed
  · obtain ⟨goal, -, h⟩ := List.exists_of_findSome?_eq_some h
    unfold goalFault at h
    split at h
    · cases h
    · cases h
      trivial
  · obtain ⟨front, action, back, rfl, failed⟩ := exists_split_of_firstFault h
    rw [List.append_nil] at failed
    exact repeatsListed_of_action duplicate_of_neighbour failed

/-- The checks see the lists in canonical order. -/
theorem repeatsListed_of_build {name : Symbol}
    (h : build name domain actions props goals = .error fault) :
    fault.RepeatsListed actions props := by
  have sorted := repeatsListed_of_fault? (build_eq_error.1 h)
  cases fault with
  | duplicateProposition ident => exact duplicate_of_perm ((canonical_perm _ _).map _) sorted
  | duplicateAction ident => exact duplicate_of_perm ((canonical_perm _ _).map _) sorted
  | _ => trivial

/-- A problem that holds every listed entity, each once and under names of its own. What is
asked for by an identifier of plain names is the entity of these names. -/
structure KeepsApart (problem : Problem) (actions : List GroundAction)
    (props goals : List GroundAtom) : Prop where
  actions : problem.actions.Perm actions
  props : problem.props.Perm props
  goals : ∀ goal, goal ∈ problem.goals ↔ goal ∈ goals
  actions_apart : (problem.actions.map GroundAction.names).Nodup
  props_apart : (problem.props.map GroundAtom.names).Nodup
  goals_apart : (problem.goals.map GroundAtom.names).Nodup
  action_found : ∀ action found : GroundAction, (∀ name ∈ action.names, name.Plain) →
    (problem.actByIdent action.ident = .ok found ↔
      found ∈ problem.actions ∧ found.names = action.names)
  prop_found : ∀ prop found : GroundAtom, (∀ name ∈ prop.names, name.Plain) →
    (problem.propByIdent prop.ident = .ok found ↔ found ∈ problem.props ∧ found = prop)

theorem actByIdent_eq_ok {problem : Problem} {ident : String} {found : GroundAction} :
    problem.actByIdent ident = .ok found ↔ found ∈ problem.actions ∧ found.ident = ident := by
  rw [← find?_key_eq_some problem.accepted.actions_distinct, actByIdent]
  cases problem.actions.find? (·.ident == ident) <;> simp

theorem propByIdent_eq_ok {problem : Problem} {ident : String} {found : GroundAtom} :
    problem.propByIdent ident = .ok found ↔ found ∈ problem.props ∧ found.ident = ident := by
  rw [← find?_key_eq_some problem.accepted.props_distinct, propByIdent]
  cases problem.props.find? (·.ident == ident) <;> simp

theorem keepsApart_of_build {name : Symbol} {problem : Problem}
    (plainActions : ∀ action ∈ actions, ∀ name ∈ action.names, name.Plain)
    (plainProps : ∀ prop ∈ props, ∀ name ∈ prop.names, name.Plain)
    (plainGoals : ∀ goal ∈ goals, ∀ name ∈ goal.names, name.Plain)
    (h : build name domain actions props goals = .ok problem) :
    problem.KeepsApart actions props goals := by
  have lists := build_lists h
  have goalsEq := (fields_of_build h).2.2.2
  have among : ∀ goal ∈ problem.goals, goal ∈ goals := fun goal mem =>
    (canonical_perm _ _).mem_iff.1 (mem_of_mem_distinctBy (goalsEq ▸ mem))
  have goalsDistinct : (problem.goals.map GroundAtom.ident).Nodup :=
    goalsEq ▸ nodup_map_distinctBy _
  refine ⟨lists.actions, lists.props, fun goal => ⟨among goal, fun mem => ?_⟩,
    nodup_names (fun _ => identOf_eq_intercalate _ _) problem.accepted.actions_distinct,
    nodup_names (fun _ => identOf_eq_intercalate _ _) problem.accepted.props_distinct,
    nodup_names (fun _ => identOf_eq_intercalate _ _) goalsDistinct, ?_, ?_⟩
  · -- Of the goals with one identifier a single one is kept, and it stands for all of them.
    obtain ⟨kept, hkept, same⟩ := List.mem_map.1 ((lists.goals _).2 (List.mem_map_of_mem mem))
    have plain := plainGoals kept (among kept hkept)
    rwa [← (GroundAtom.ident_eq_iff plain (plainGoals goal mem)).1 same]
  · intro action found plain
    rw [actByIdent_eq_ok]
    exact and_congr_right fun mem =>
      GroundAction.ident_eq_iff (plainActions found (lists.actions.mem_iff.1 mem)) plain
  · intro prop found plain
    rw [propByIdent_eq_ok]
    exact and_congr_right fun mem =>
      GroundAtom.ident_eq_iff (plainProps found (lists.props.mem_iff.1 mem)) plain

end Problem

/-- Identifiers of names without a space can be read back, whether or not a name is empty. So
equality, order and hashes of entities compare their names; a problem refuses an entity as
repeated only if its names are listed twice, and a problem that is built has all entities. -/
theorem identifiers_decodable :
    (∀ (head : Symbol) (args : List Symbol), (∀ name ∈ head :: args, name.Plain) →
      namesOf (identOf head args) = head :: args) ∧
    (∀ atom other : GroundAtom, (∀ name ∈ atom.names, name.Plain) →
      (∀ name ∈ other.names, name.Plain) →
      [atom.ident = other.ident,
        atom.order other = .eq,
        ∀ (σ : Type) (write : String → σ → σ) (state : σ),
          atom.hashInto write state = other.hashInto write state,
        atom.predicate = other.predicate ∧ atom.args = other.args].TFAE) ∧
    (∀ action other : GroundAction, (∀ name ∈ action.names, name.Plain) →
      (∀ name ∈ other.names, name.Plain) →
      [action.ident = other.ident,
        action.order other = .eq,
        ∀ (σ : Type) (write : String → σ → σ) (state : σ),
          action.hashInto write state = other.hashInto write state,
        action.schema = other.schema ∧ action.args = other.args].TFAE) ∧
    ∀ (name : Symbol) (domain : Domain) (actions : List GroundAction)
      (props goals : List GroundAtom),
      (∀ action ∈ actions, ∀ name ∈ action.names, name.Plain) →
      (∀ prop ∈ props, ∀ name ∈ prop.names, name.Plain) →
      (∀ goal ∈ goals, ∀ name ∈ goal.names, name.Plain) →
      (∀ ident, Problem.build name domain actions props goals = .error (.duplicateAction ident) →
        List.Duplicate (namesOf ident) (actions.map GroundAction.names)) ∧
      (∀ ident,
        Problem.build name domain actions props goals = .error (.duplicateProposition ident) →
        List.Duplicate (namesOf ident) (props.map GroundAtom.names)) ∧
      ∀ problem, Problem.build name domain actions props goals = .ok problem →
        problem.KeepsApart actions props goals := by
  refine ⟨fun _ _ plain => namesOf_identOf plain, fun _ _ => identOf_tfae, fun _ _ => identOf_tfae,
    fun name domain actions props goals plainActions plainProps plainGoals =>
      ⟨fun ident h => ?_, fun ident h => ?_,
        fun problem h => Problem.keepsApart_of_build plainActions plainProps plainGoals h⟩⟩
  · exact duplicate_names (fun action mem => namesOf_identOf (plainActions action mem))
      (Problem.repeatsListed_of_build h)
  · exact duplicate_names (fun prop mem => namesOf_identOf (plainProps prop mem))
      (Problem.repeatsListed_of_build h)

namespace EmptyNames

def domain : Domain := ⟨"calls", [⟨"call", ["?x", "?y"], []⟩], ["at"], by decide⟩

/-- A call from nowhere and one to nowhere. -/
def actions : List GroundAction := [⟨"call", ["", "a"], []⟩, ⟨"call", ["a", ""], []⟩]

def props : List GroundAtom := [⟨"at", []⟩, ⟨"at", [""]⟩, ⟨"at", ["", ""]⟩]

def repeatedActions : List GroundAction := [⟨"call", ["a", ""], []⟩, ⟨"call", ["a", ""], []⟩]

def repeatedProps : List GroundAtom := [⟨"at", []⟩, ⟨"at", [""]⟩, ⟨"at", [""]⟩]

theorem props_sorted : canonical GroundAtom.ident props = props :=
  canonical_eq_self (by decide +kernel)

theorem repeatedActions_sorted : canonical GroundAction.ident repeatedActions = repeatedActions :=
  canonical_eq_self (by decide +kernel)

theorem repeatedProps_sorted : canonical GroundAtom.ident repeatedProps = repeatedProps :=
  canonical_eq_self (by decide +kernel)

theorem exists_problem :
    ∃ problem, Problem.build "once" domain actions props props = .ok problem :=
  Problem.exists_build_iff.2
    ((Problem.fault?_eq_none (by decide +kernel) (by decide +kernel)).1 (by decide +kernel))

theorem repeated_action_refused :
    Problem.build "twice" domain repeatedActions props [] =
      .error (.duplicateAction "call a ") := by
  rw [Problem.build_eq_error, repeatedActions_sorted, props_sorted]
  decide +kernel

theorem repeated_prop_refused :
    Problem.build "twice" domain [] repeatedProps [] =
      .error (.duplicateProposition "at ") := by
  rw [Problem.build_eq_error, repeatedProps_sorted]
  decide +kernel

/-- Empty names are read back, the two calls are different ones, all three propositions are kept,
and what is reported as repeated is listed twice. -/
theorem told_apart :
    (∀ name ∈ ["call", "", "a"], Symbol.Plain name) ∧
      namesOf (identOf "call" ["", "a"]) = ["call", "", "a"] ∧
      GroundAtom.order ⟨"at", []⟩ ⟨"at", [""]⟩ ≠ .eq ∧
      GroundAction.ident ⟨"call", ["", "a"], []⟩ ≠ GroundAction.ident ⟨"call", ["a", ""], []⟩ ∧
      (∃ problem, Problem.build "once" domain actions props props = .ok problem ∧
        problem.KeepsApart actions props props) ∧
      List.Duplicate (namesOf "call a ") (repeatedActions.map GroundAction.names) ∧
      List.Duplicate (namesOf "at ") (repeatedProps.map GroundAtom.names) := by
  have plain : ∀ name ∈ ["call", "", "a"], Symbol.Plain name := by decide
  obtain ⟨decoded, atoms, calls, built⟩ := identifiers_decodable
  refine ⟨plain, decoded _ _ plain, ?_, ?_, ?_, ?_, ?_⟩
  · have compared := atoms ⟨"at", []⟩ ⟨"at", [""]⟩ (by decide) (by decide)
    exact fun same => absurd ((compared.out 1 3).1 same) (by decide)
  · have compared := calls ⟨"call", ["", "a"], []⟩ ⟨"call", ["a", ""], []⟩ plain (by decide)
    exact fun same => absurd ((compared.out 0 3).1 same) (by decide)
  · obtain ⟨problem, h⟩ := exists_problem
    have kept := built "once" domain actions props props (by decide) (by decide) (by decide)
    exact ⟨problem, h, kept.2.2 problem h⟩
  · have reported := built "twice" domain repeatedActions props [] (by decide) (by decide)
      (by decide)
    exact reported.1 "call a " repeated_action_refused
  · have reported := built "twice" domain [] repeatedProps [] (by decide) (by decide) (by decide)
    exact reported.2.1 "at " repeated_prop_refused

end EmptyNames

end SchemaNet
