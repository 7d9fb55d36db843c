import SchemaNet.Proofs.Planning.Identifiers
import SchemaNet.Proofs.Planning.WellFormed

/-!
Grounding a schema. It succeeds exactly for one argument for each parameter and slots that
mention no other marked parameter; the instance is fixed by the places of the parameters, and
a failure names the first thing that is wrong.
-/

namespace SchemaNet

/-- A parameter that has to be replaced and is no parameter of the schema. -/
def Unbound (params : List Symbol) (param : Symbol) : Prop := param.isFree ∧ param ∉ params

theorem not_unbound {params : List Symbol} {param : Symbol} :
    ¬Unbound params param ↔ (param.isFree → param ∈ params) := by
  rw [Unbound, not_and, not_not]

namespace Schema

/-- The instance of a schema for its arguments, each slot bound by the places of the
parameters. -/
structure Makes (schema : Schema) (args : List Symbol) (action : GroundAction) : Prop where
  schema_eq : action.schema = schema.name
  args_eq : action.args = args
  ident_eq : action.ident = schema.name ++ String.join (args.map fun arg => " " ++ arg)
  slots : List.Forall₂ (fun atom held => LiftedAtom.BindsTo atom schema.params args held)
    schema.relevant action.slots

/-- Why a schema has no instance for some arguments. -/
inductive Refuses (schema : Schema) (args : List Symbol) : BindError → Prop
  | tooMany : schema.params.length < args.length →
      Refuses schema args (.tooManyArguments schema.name schema.params.length args.length)
  | missing (k : Nat) (param : Symbol) : schema.params[k]? = some param → args[k]? = none →
      (∀ j < k, args[j]? ≠ none) → Refuses schema args (.missingArgument schema.name param)
  | unbound (i j : Nat) (atom : LiftedAtom) (param : Symbol) :
      args.length = schema.params.length →
      schema.relevant[i]? = some atom → atom.params[j]? = some param →
      Unbound schema.params param →
      (∀ before < i, ∀ earlier, schema.relevant[before]? = some earlier →
        ∀ other ∈ earlier.params, ¬Unbound schema.params other) →
      (∀ before < j, ∀ other, atom.params[before]? = some other →
        ¬Unbound schema.params other) →
      Refuses schema args (.missingSubstitution atom.predicate param)

end Schema

/-! ## Failures of a slot -/

section Slots

variable {params args : List Symbol} {fault : BindError}

theorem bindParam_eq_error (size : args.length = params.length) {predicate param : Symbol} :
    LiftedAtom.bindParam predicate (params.zip args) param = .error fault ↔
      Unbound params param ∧ .missingSubstitution predicate param = fault := by
  have known : (∃ object, Substitution.find? (params.zip args) param = some object) ↔
      param ∈ params := by
    simp only [find?_zip size, exists_assigns size]
  unfold LiftedAtom.bindParam Unbound
  split
  · next free =>
    rw [← known]
    cases Substitution.find? (params.zip args) param <;> simp [free]
  · next constant => simp [constant]

theorem exists_bindParam_iff (size : args.length = params.length) {predicate param : Symbol} :
    (∃ object, LiftedAtom.bindParam predicate (params.zip args) param = .ok object) ↔
      ¬Unbound params param := by
  rw [not_unbound]
  simp only [bindParam_eq_ok size]
  by_cases free : param.isFree
  · simp [free, exists_assigns size]
  · simp [free]

/-- A slot fails for the first of its parameters that is not bound. -/
theorem LiftedAtom.bind_eq_error (size : args.length = params.length) {atom : LiftedAtom} :
    atom.bind (params.zip args) = .error fault ↔ ∃ (j : Nat) (param : Symbol),
      atom.params[j]? = some param ∧
      (Unbound params param ∧ .missingSubstitution atom.predicate param = fault) ∧
      ∀ before < j, ∀ other, atom.params[before]? = some other → ¬Unbound params other := by
  have whole : atom.bind (params.zip args) = .error fault ↔
      atom.params.mapM (bindParam atom.predicate (params.zip args)) = .error fault := by
    rw [LiftedAtom.bind, SchemaNet.bind_eq_error]
    simp [pure_eq_ok]
  rw [whole, mapM_eq_error]
  simp only [bindParam_eq_error size, exists_bindParam_iff size]

end Slots

/-! ## Schemas -/

namespace Schema

variable {schema : Schema} {args : List Symbol} {action : GroundAction} {fault : BindError}

theorem bind_eq_ok_iff_makes :
    schema.bind args = .ok action ↔
      args.length = schema.params.length ∧ schema.Makes args action := by
  rw [bind_eq_ok]
  refine and_congr_right fun size => ?_
  simp only [mapM_eq_ok, SchemaNet.bind_eq_ok_iff size]
  constructor
  · rintro ⟨slots, binds, rfl⟩
    exact ⟨rfl, rfl, identOf_eq_join schema.name args, binds⟩
  · intro made
    obtain ⟨name, own, slots⟩ := action
    obtain rfl := made.schema_eq
    obtain rfl := made.args_eq
    exact ⟨slots, made.slots, rfl⟩

theorem bind_eq_error_of_more (long : schema.params.length < args.length) :
    schema.bind args = .error fault ↔ schema.Refuses args fault := by
  have own : schema.bind args =
      .error (.tooManyArguments schema.name schema.params.length args.length) := if_pos long
  rw [own]
  constructor
  · rintro ⟨⟩
    exact .tooMany long
  · intro refused
    cases refused with
    | tooMany => rfl
    | missing k param place absent given =>
      have inside := (List.getElem?_eq_some_iff.1 place).1
      have past : args.length ≤ k := List.getElem?_eq_none_iff.1 absent
      omega
    | unbound _ _ _ _ size => omega

theorem bind_eq_error_of_fewer (short : args.length < schema.params.length) :
    schema.bind args = .error fault ↔ schema.Refuses args fault := by
  have own : schema.bind args =
      .error (.missingArgument schema.name schema.params[args.length]) := by
    rw [bind, if_neg (by omega), List.getElem?_eq_getElem short]
  rw [own]
  constructor
  · rintro ⟨⟩
    refine .missing args.length _ (List.getElem?_eq_getElem short)
      (List.getElem?_eq_none (Nat.le_refl _)) fun j before => ?_
    rw [List.getElem?_eq_getElem before]
    exact Option.some_ne_none _
  · intro refused
    cases refused with
    | tooMany long => omega
    | missing k param place absent given =>
      have past : args.length ≤ k := List.getElem?_eq_none_iff.1 absent
      have first : k ≤ args.length := by
        by_contra after
        exact given args.length (by omega) (List.getElem?_eq_none (Nat.le_refl _))
      obtain rfl : k = args.length := by omega
      rw [List.getElem?_eq_getElem short] at place
      rw [Option.some.inj place]
    | unbound _ _ _ _ size => omega

/-- With an argument for each parameter only a slot can fail. -/
theorem bind_eq_error_of_size (size : args.length = schema.params.length) :
    schema.bind args = .error fault ↔ schema.Refuses args fault := by
  have own : schema.bind args = (do
      let slots ← schema.relevant.mapM fun atom => atom.bind (schema.params.zip args)
      return ⟨schema.name, args, slots⟩) := by
    rw [bind, if_neg (by omega), List.getElem?_eq_none (by omega)]
  have slots : schema.bind args = .error fault ↔
      schema.relevant.mapM (fun atom => atom.bind (schema.params.zip args)) = .error fault := by
    rw [own, SchemaNet.bind_eq_error]
    simp [pure_eq_ok]
  rw [slots, mapM_eq_error]
  simp only [LiftedAtom.bind_eq_error size, exists_ground_iff size]
  constructor
  · rintro ⟨i, atom, place, ⟨j, param, at_j, ⟨unbound, rfl⟩, passed⟩, earlier⟩
    exact .unbound i j atom param size place at_j unbound
      (fun before inside slot hslot other mem =>
        not_unbound.2 (earlier before inside slot hslot other mem)) passed
  · intro refused
    cases refused with
    | tooMany long => omega
    | missing k param place absent given =>
      have inside := (List.getElem?_eq_some_iff.1 place).1
      have past : args.length ≤ k := List.getElem?_eq_none_iff.1 absent
      omega
    | unbound i j atom param _ place at_j unbound earlier passed =>
      exact ⟨i, atom, place, ⟨j, param, at_j, ⟨unbound, rfl⟩, passed⟩,
        fun before inside slot hslot other mem =>
          not_unbound.1 (earlier before inside slot hslot other mem)⟩

/-- The failures of a schema are those that its arguments and its slots give reason to. -/
theorem bind_eq_error_iff_refuses :
    schema.bind args = .error fault ↔ schema.Refuses args fault := by
  rcases Nat.lt_trichotomy args.length schema.params.length with short | size | long
  · exact bind_eq_error_of_fewer short
  · exact bind_eq_error_of_size size
  · exact bind_eq_error_of_more long

/-- When a schema can be grounded, what the instance is, and what is reported if it cannot. -/
theorem bound_or_refused (schema : Schema) (args : List Symbol) :
    ((∃ action, schema.bind args = .ok action) ↔ args.length = schema.params.length ∧
      ∀ atom ∈ schema.relevant, ∀ param ∈ atom.params, param.isFree → param ∈ schema.params) ∧
    (∀ action, schema.bind args = .ok action ↔
      args.length = schema.params.length ∧ schema.Makes args action) ∧
    ∀ fault, schema.bind args = .error fault ↔ schema.Refuses args fault :=
  ⟨exists_schema_bind_iff, fun _ => bind_eq_ok_iff_makes, fun _ => bind_eq_error_iff_refuses⟩

/-- Of a parameter that is listed twice the later argument counts. -/
example : (⟨"go", ["?x", "?x"], [⟨"at", ["?x", "x"]⟩]⟩ : Schema).bind ["a", "b"] =
    .ok ⟨"go", ["a", "b"], [⟨"at", ["b", "x"]⟩]⟩ := by decide

end Schema

end SchemaNet
