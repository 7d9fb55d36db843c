import SchemaNet.Proofs.Planning.Acceptance

/-!
Identifiers of plain entities. Names are put together with spaces, so an identifier tells
its names apart only if none of them contains a space; then the names can be read back, and
entities of one identifier are equal.
-/

namespace SchemaNet

/-- A name without a space. -/
def Symbol.Plain (name : Symbol) : Prop := ' ' ∉ name.toList

instance (name : Symbol) : Decidable name.Plain := inferInstanceAs (Decidable (_ ∉ _))

/-- The names after the first one in an identifier. -/
def spaced (names : List Symbol) : List Char := names.flatMap fun name => ' ' :: name.toList

theorem identOf_toList (head : Symbol) (args : List Symbol) :
    (identOf head args).toList = head.toList ++ spaced args := by
  induction args generalizing head with
  | nil => exact (List.append_nil _).symm
  | cons arg rest ih =>
    have step : identOf head (arg :: rest) = identOf (head ++ " " ++ arg) rest := rfl
    rw [step, ih]
    simp [spaced]

/-- The head, then a space and a name for each argument. -/
theorem identOf_eq_join (head : Symbol) (args : List Symbol) :
    identOf head args = head ++ String.join (args.map fun arg => " " ++ arg) := by
  rw [← String.toList_inj, identOf_toList]
  simp [spaced, List.flatMap_map]

theorem head?_spaced (names : List Symbol) : ∀ c ∈ (spaced names).head?, c = ' ' := by
  cases names <;> simp [spaced]

/-- A name ends where the first space stands. -/
theorem append_spaced_inj {first other : List Char} {names others : List Symbol}
    (plain : ' ' ∉ first) (plain' : ' ' ∉ other)
    (h : first ++ spaced names = other ++ spaced others) :
    first = other ∧ spaced names = spaced others :=
  append_mark_inj plain plain' (head?_spaced names) (head?_spaced others) h

theorem identOf_head_inj {head other : Symbol} {args others : List Symbol} (plain : head.Plain)
    (plain' : other.Plain) (h : identOf head args = identOf other others) : head = other := by
  have chars := congrArg String.toList h
  rw [identOf_toList, identOf_toList] at chars
  exact String.toList_inj.1 (append_spaced_inj plain plain' chars).1

theorem identOf_eq_intercalate (head : Symbol) (args : List Symbol) :
    identOf head args = (String.singleton ' ').intercalate (head :: args) := by
  induction args generalizing head with
  | nil => rfl
  | cons arg rest ih => exact ih (head ++ " " ++ arg)

/-- The names of an identifier, cut at every space. -/
def namesOf (ident : String) : List Symbol := (ident.split ' ').toList.map String.Slice.copy

/-- Empty names stand between neighbouring spaces, so they are read back too. -/
theorem namesOf_identOf {head : Symbol} {args : List Symbol}
    (plain : ∀ name ∈ head :: args, name.Plain) : namesOf (identOf head args) = head :: args := by
  rw [namesOf, identOf_eq_intercalate]
  exact (String.toList_split_intercalate plain).trans (if_neg (List.cons_ne_nil head args))

/-- Identifiers of plain names are the same exactly if the names are. -/
theorem identOf_eq_iff {head other : Symbol} {args others : List Symbol}
    (plain : ∀ name ∈ head :: args, name.Plain) (plain' : ∀ name ∈ other :: others, name.Plain) :
    identOf head args = identOf other others ↔ head :: args = other :: others := by
  constructor
  · intro same
    rw [← namesOf_identOf plain, same, namesOf_identOf plain']
  · intro same
    rw [identOf_eq_intercalate, same, ← identOf_eq_intercalate]

/-- The predicate and the arguments. -/
def GroundAtom.names (atom : GroundAtom) : List Symbol := atom.predicate :: atom.args

theorem GroundAtom.ident_eq_iff {atom other : GroundAtom}
    (plain : ∀ name ∈ atom.names, name.Plain) (plain' : ∀ name ∈ other.names, name.Plain) :
    atom.ident = other.ident ↔ atom = other := by
  refine ⟨fun same => ?_, congrArg ident⟩
  obtain ⟨predicate, args⟩ := List.cons.inj ((identOf_eq_iff plain plain').1 same)
  cases atom
  cases other
  exact congrArg₂ _ predicate args

/-- A proposition of plain names. -/
structure GroundAtom.Plain (atom : GroundAtom) : Prop where
  predicate : atom.predicate.Plain
  args : ∀ arg ∈ atom.args, arg.Plain

instance (atom : GroundAtom) : Decidable atom.Plain :=
  decidable_of_iff (atom.predicate.Plain ∧ ∀ arg ∈ atom.args, arg.Plain)
    ⟨fun h => ⟨h.1, h.2⟩, fun h => ⟨h.predicate, h.args⟩⟩

theorem GroundAtom.Plain.names {atom : GroundAtom} (h : atom.Plain) :
    ∀ name ∈ atom.names, name.Plain :=
  List.forall_mem_cons.2 ⟨h.predicate, h.args⟩

theorem GroundAtom.Plain.eq_of_ident {atom other : GroundAtom} (h : atom.Plain) (h' : other.Plain)
    (same : atom.ident = other.ident) : atom = other :=
  (ident_eq_iff h.names h'.names).1 same

/-- The schema and the arguments; the slots have no part in what an action is known by. -/
def GroundAction.names (action : GroundAction) : List Symbol := action.schema :: action.args

theorem GroundAction.ident_eq_iff {action other : GroundAction}
    (plain : ∀ name ∈ action.names, name.Plain) (plain' : ∀ name ∈ other.names, name.Plain) :
    action.ident = other.ident ↔ action.names = other.names :=
  identOf_eq_iff plain plain'

/-- An action of plain names, in its slots too. -/
structure GroundAction.Plain (action : GroundAction) : Prop where
  schema : action.schema.Plain
  args : ∀ arg ∈ action.args, arg.Plain
  slots : ∀ held ∈ action.slots, held.Plain

instance (action : GroundAction) : Decidable action.Plain :=
  decidable_of_iff (action.schema.Plain ∧ (∀ arg ∈ action.args, arg.Plain) ∧
      ∀ held ∈ action.slots, held.Plain)
    ⟨fun h => ⟨h.1, h.2.1, h.2.2⟩, fun h => ⟨h.schema, h.args, h.slots⟩⟩

theorem GroundAction.Plain.names {action : GroundAction} (h : action.Plain) :
    ∀ name ∈ action.names, name.Plain :=
  List.forall_mem_cons.2 ⟨h.schema, h.args⟩

theorem GroundAction.Plain.names_of_ident {action other : GroundAction} (h : action.Plain)
    (h' : other.Plain) (same : action.ident = other.ident) :
    action.schema = other.schema ∧ action.args = other.args :=
  List.cons.inj ((ident_eq_iff h.names h'.names).1 same)

end SchemaNet
