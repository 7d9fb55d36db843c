import SchemaNet.Proofs.Network.WalkDomain
import SchemaNet.Proofs.Planning.IndexedProblem

/-!
The problems that can be built are the well-formed ones, and the pass over a list that is not
well-formed stops with a fault, not at a missing entry. Being well-formed is said here of the
lists as they are given, in any order and without the grounding functions.
-/

namespace SchemaNet

/-- The object at the last place of a parameter. -/
def Assigns (params args : List Symbol) (param object : Symbol) : Prop :=
  ∃ k : Nat, params[k]? = some param ∧ args[k]? = some object ∧
    ∀ j, k < j → params[j]? ≠ some param

/-- A lifted proposition and its instance when objects take the places of the parameters. -/
structure LiftedAtom.BindsTo (atom : LiftedAtom) (params args : List Symbol) (bound : GroundAtom) :
    Prop where
  predicate : bound.predicate = atom.predicate
  args : List.Forall₂
    (fun param object => if param.isFree then Assigns params args param object else object = param)
    atom.params bound.args

/-- What a well-formed problem asks of an action of that schema. -/
structure GroundAction.Fits (action : GroundAction) (schema : Schema) (props : List GroundAtom) :
    Prop where
  arity : action.args.length = schema.params.length
  closed : ∀ atom ∈ schema.relevant, ∀ param ∈ atom.params, param.isFree → param ∈ schema.params
  count : action.slots.length = schema.relevant.length
  filled : ∀ (k : Nat) (held : GroundAtom) (relevant : LiftedAtom),
    action.slots[k]? = some held → schema.relevant[k]? = some relevant →
      ∃ bound, relevant.BindsTo schema.params action.args bound ∧ held.ident = bound.ident ∧
        ∃ prop ∈ props, prop.ident = bound.ident ∧ prop.predicate = relevant.predicate

structure Problem.WellFormed (domain : Domain) (actions : List GroundAction)
    (props goals : List GroundAtom) : Prop where
  props_distinct : (props.map GroundAtom.ident).Nodup
  props_known : ∀ prop ∈ props, prop.predicate ∈ domain.predicates
  props_ground : ∀ prop ∈ props, ∀ arg ∈ prop.args, arg.isFree = false
  goals_listed : ∀ goal ∈ goals, ∃ prop ∈ props, prop.ident = goal.ident
  actions_distinct : (actions.map GroundAction.ident).Nodup
  actions_fit : ∀ action ∈ actions, ∃ schema ∈ domain.schemas,
    schema.name = action.schema ∧ action.Fits schema props

/-! ## Grounding -/

section Grounding

variable {params args : List Symbol} {param object : Symbol}

theorem assigns_of_find? (size : args.length = params.length)
    (found : Substitution.find? (params.zip args) param = some object) :
    Assigns params args param object := by
  obtain ⟨later, earlier, same, apart⟩ := List.lookup_eq_some_iff.1 found
  have split : params.zip args = earlier.reverse ++ (param, object) :: later.reverse := by
    rw [← List.reverse_reverse (params.zip args), same]
    simp
  have read : (params.zip args)[earlier.length]? = some (param, object) := by
    rw [split, List.getElem?_append_right (by simp)]
    simp
  obtain ⟨hparam, hobject⟩ := List.getElem?_zip_eq_some.1 read
  refine ⟨earlier.length, hparam, hobject, fun j after again => ?_⟩
  have inside : j < args.length := by
    rw [size]
    exact (List.getElem?_eq_some_iff.1 again).1
  have entry : (params.zip args)[j]? = some (param, args[j]) :=
    List.getElem?_zip_eq_some.2 ⟨again, List.getElem?_eq_getElem inside⟩
  obtain ⟨d, rfl⟩ := Nat.exists_eq_add_of_lt after
  rw [split, List.getElem?_append_right (by simp; omega), List.length_reverse,
    show earlier.length + d + 1 - earlier.length = d + 1 by omega,
    List.getElem?_cons_succ] at entry
  have mem := List.mem_reverse.1 (List.mem_of_getElem? entry)
  simpa using apart _ mem

theorem find?_of_assigns (assigns : Assigns params args param object) :
    Substitution.find? (params.zip args) param = some object := by
  obtain ⟨k, hparam, hobject, last⟩ := assigns
  have read : (params.zip args)[k]? = some (param, object) :=
    List.getElem?_zip_eq_some.2 ⟨hparam, hobject⟩
  obtain ⟨inside, own⟩ := List.getElem?_eq_some_iff.1 read
  have split : params.zip args =
      (params.zip args).take k ++ (param, object) :: (params.zip args).drop (k + 1) := by
    rw [← own, ← List.drop_eq_getElem_cons inside, List.take_append_drop]
  refine List.lookup_eq_some_iff.2 ⟨((params.zip args).drop (k + 1)).reverse,
    ((params.zip args).take k).reverse, ?_, fun entry mem => ?_⟩
  · conv_lhs => rw [split]
    simp
  · obtain ⟨i, hi⟩ := List.getElem?_of_mem (List.mem_reverse.1 mem)
    rw [List.getElem?_drop] at hi
    have place := (List.getElem?_zip_eq_some.1 hi).1
    have apart : param ≠ entry.1 := fun same => last (k + 1 + i) (by omega) (same ▸ place)
    simpa using apart

theorem find?_zip (size : args.length = params.length) :
    Substitution.find? (params.zip args) param = some object ↔
      Assigns params args param object :=
  ⟨assigns_of_find? size, find?_of_assigns⟩

theorem bindParam_eq_ok (size : args.length = params.length) {predicate : Symbol} :
    LiftedAtom.bindParam predicate (params.zip args) param = .ok object ↔
      if param.isFree then Assigns params args param object else object = param := by
  unfold LiftedAtom.bindParam
  split
  · next free =>
    rw [← find?_zip size]
    cases Substitution.find? (params.zip args) param <;> simp
  · next constant => simp [eq_comm]

theorem bind_eq_ok_iff (size : args.length = params.length) {atom : LiftedAtom}
    {bound : GroundAtom} :
    atom.bind (params.zip args) = .ok bound ↔ atom.BindsTo params args bound := by
  rw [LiftedAtom.bind, Memory.bind_eq_ok]
  simp only [mapM_eq_ok, bindParam_eq_ok size, pure_eq_ok, Except.ok.injEq]
  constructor
  · rintro ⟨own, hown, rfl⟩
    exact ⟨rfl, hown⟩
  · rintro ⟨predicate, hargs⟩
    exact ⟨bound.args, hargs, by rw [← predicate]⟩

theorem exists_assigns (size : args.length = params.length) :
    (∃ object, Assigns params args param object) ↔ param ∈ params := by
  have keys : (params.zip args).map Prod.fst = params := List.map_fst_zip (Nat.le_of_eq size.symm)
  simp only [← find?_zip size]
  rw [← Option.isSome_iff_exists, ← Option.ne_none_iff_isSome, ne_eq, Substitution.find?,
    List.lookup_eq_none_iff]
  conv_rhs => rw [← keys]
  simp

theorem exists_ground_iff (size : args.length = params.length) {atom : LiftedAtom} :
    (∃ bound, atom.bind (params.zip args) = .ok bound) ↔
      ∀ param ∈ atom.params, param.isFree → param ∈ params := by
  have each : (∃ bound, atom.bind (params.zip args) = .ok bound) ↔
      ∃ own, atom.params.mapM (LiftedAtom.bindParam atom.predicate (params.zip args)) =
        .ok own := by
    rw [LiftedAtom.bind, exists_bind_iff]
    simp [pure_eq_ok]
  rw [each, exists_mapM_iff]
  refine forall₂_congr fun param _ => ?_
  simp only [bindParam_eq_ok size]
  by_cases free : param.isFree
  · simp [free, exists_assigns size]
  · simp [free]

end Grounding

theorem exists_schema_bind_iff {schema : Schema} {args : List Symbol} :
    (∃ bound, schema.bind args = .ok bound) ↔
      args.length = schema.params.length ∧
        ∀ atom ∈ schema.relevant, ∀ param ∈ atom.params, param.isFree → param ∈ schema.params := by
  simp only [Schema.bind_eq_ok]
  constructor
  · rintro ⟨bound, size, slots, hslots, -⟩
    refine ⟨size, fun atom hatom => (exists_ground_iff size).1 ?_⟩
    exact exists_mapM_iff.1 ⟨slots, hslots⟩ atom hatom
  · rintro ⟨size, closed⟩
    obtain ⟨slots, hslots⟩ := exists_mapM_iff.2 fun atom hatom =>
      (exists_ground_iff size).2 (closed atom hatom)
    exact ⟨_, size, slots, hslots, rfl⟩

theorem GroundAction.instantiates_iff {action : GroundAction} {schema : Schema}
    {props : List GroundAtom} :
    action.Instantiates schema props ↔ schema.name = action.schema ∧ action.Fits schema props := by
  constructor
  · intro inst
    obtain ⟨bound, hbound, idents⟩ := inst.binds
    obtain ⟨size, closed⟩ := exists_schema_bind_iff.1 ⟨bound, hbound⟩
    refine ⟨inst.name, size, closed, inst.count, fun k held relevant hheld hrelevant => ?_⟩
    obtain ⟨-, slots, hslots, rfl⟩ := Schema.bind_eq_ok.1 hbound
    obtain ⟨own, hown, binds⟩ := mapM_getElem? hslots hrelevant
    have same : held.ident = own.ident := by
      have read := congrArg (·[k]?) idents
      simpa [hown, hheld, eq_comm] using read
    obtain ⟨prop, hprop, equal, asked⟩ := inst.listed k held relevant hheld hrelevant
    exact ⟨own, (bind_eq_ok_iff size).1 binds, same, prop, hprop, equal.trans same, asked⟩
  · rintro ⟨name, fits⟩
    obtain ⟨bound, hbound⟩ := exists_schema_bind_iff.2 ⟨fits.arity, fits.closed⟩
    refine ⟨name, fits.count, ⟨bound, hbound, ?_⟩, fun k held relevant hheld hrelevant => ?_⟩
    · obtain ⟨-, slots, hslots, rfl⟩ := Schema.bind_eq_ok.1 hbound
      have size : slots.length = action.slots.length := (mapM_length hslots).trans fits.count.symm
      refine List.ext_getElem (by simpa using size) fun k h h' => ?_
      have inside : k < action.slots.length := by simpa using h'
      have asked : k < schema.relevant.length := by rw [← fits.count]; exact inside
      obtain ⟨own, binds, same, -⟩ := fits.filled k _ _ (List.getElem?_eq_getElem inside)
        (List.getElem?_eq_getElem asked)
      obtain ⟨other, hother, ground⟩ := mapM_getElem? hslots (List.getElem?_eq_getElem asked)
      rw [(bind_eq_ok_iff fits.arity).2 binds] at ground
      obtain rfl := Except.ok.inj ground
      rw [List.getElem_map, List.getElem_map, same, (List.getElem?_eq_some_iff.1 hother).2]
    · obtain ⟨own, -, same, prop, hprop, equal, asked⟩ :=
        fits.filled k held relevant hheld hrelevant
      exact ⟨prop, hprop, equal.trans same.symm, asked⟩

namespace Problem

variable {domain : Domain} {actions : List GroundAction} {props goals : List GroundAtom}

theorem accepted_iff_wellFormed :
    Accepted domain actions props goals ↔ WellFormed domain actions props goals := by
  constructor
  · rintro ⟨distinct, admissible, listed, distinctActions, instantiate⟩
    refine ⟨distinct, fun prop h => (admissible prop h).known,
      fun prop h => (admissible prop h).grounded, fun goal h => List.mem_map.1 (listed goal h),
      distinctActions, fun action h => ?_⟩
    obtain ⟨schema, hschema, inst⟩ := instantiate action h
    exact ⟨schema, hschema, GroundAction.instantiates_iff.1 inst⟩
  · rintro ⟨distinct, known, ground, listed, distinctActions, fit⟩
    refine ⟨distinct, fun prop h => ⟨ground prop h, known prop h⟩,
      fun goal h => List.mem_map.2 (listed goal h), distinctActions, fun action h => ?_⟩
    obtain ⟨schema, hschema, fits⟩ := fit action h
    exact ⟨schema, hschema, GroundAction.instantiates_iff.2 fits⟩

/-- Either the lists are well-formed and the problem is built, or a fault is returned. In both
cases the pass ends, without a missing entry, in the same way. -/
theorem build_ok_iff_wellFormed (name : Symbol) (domain : Domain) {actions : List GroundAction}
    {props : List GroundAtom} (goals : List GroundAtom)
    (fewActions : actions.length ≤ Indexing.idLimit) (fewProps : props.length ≤ Indexing.idLimit) :
    (WellFormed domain actions props goals ↔
      ∃ problem, build name domain actions props goals = .ok problem ∧
        indexLists domain actions props goals = .ok problem.indexed) ∧
    (¬WellFormed domain actions props goals ↔
      ∃ fault, build name domain actions props goals = .error fault ∧
        indexLists domain actions props goals = .error (.refused fault)) := by
  have pass := indexLists_eq name domain goals fewActions fewProps
  have accepts : WellFormed domain actions props goals ↔
      ∃ problem, build name domain actions props goals = .ok problem := by
    rw [exists_build_iff, accepted_iff_wellFormed]
  cases built : build name domain actions props goals with
  | ok problem =>
    rw [built] at pass accepts
    have well := accepts.2 ⟨problem, rfl⟩
    simp [well, pass]
  | error fault =>
    rw [built] at pass accepts
    have ill : ¬WellFormed domain actions props goals := fun well => by simpa using accepts.1 well
    simp [ill, pass]

theorem walk_lists_build_iff :
    WalkDomain.actions.length ≤ Indexing.idLimit ∧ WalkDomain.props.length ≤ Indexing.idLimit ∧
    (WellFormed WalkDomain.domain WalkDomain.actions WalkDomain.props WalkDomain.goals ↔
      ∃ problem, build "short" WalkDomain.domain WalkDomain.actions WalkDomain.props
          WalkDomain.goals = .ok problem ∧
        indexLists WalkDomain.domain WalkDomain.actions WalkDomain.props WalkDomain.goals =
          .ok problem.indexed) ∧
    (¬WellFormed WalkDomain.domain WalkDomain.actions WalkDomain.props WalkDomain.goals ↔
      ∃ fault, build "short" WalkDomain.domain WalkDomain.actions WalkDomain.props
          WalkDomain.goals = .error fault ∧
        indexLists WalkDomain.domain WalkDomain.actions WalkDomain.props WalkDomain.goals =
          .error (.refused fault)) :=
  ⟨by decide, by decide, build_ok_iff_wellFormed "short" WalkDomain.domain WalkDomain.goals
    (by decide) (by decide)⟩

end Problem

end SchemaNet
