import SchemaNet.Planning.Symbol

/-!
Propositions, lifted (with parameters) and ground (with objects). A ground
proposition is known by its identifier, which also gives its place in the
canonical order.
-/

namespace SchemaNet

/-- Why a lifted proposition or a schema could not be grounded. -/
inductive BindError where
  | missingSubstitution (predicate param : Symbol)
  | missingArgument (schema param : Symbol)
  | tooManyArguments (schema : Symbol) (expected found : Nat)
  deriving DecidableEq, Repr

def BindError.kind : BindError → String
  | .missingSubstitution .. => "MissingSubstitution"
  | .missingArgument .. => "MissingArgument"
  | .tooManyArguments .. => "TooManyArguments"

def BindError.message : BindError → String
  | .missingSubstitution predicate param =>
    s!"no substitution for parameter {param} of predicate {predicate}"
  | .missingArgument schema param =>
    s!"schema {schema} expects an argument for parameter {param}"
  | .tooManyArguments schema expected found =>
    s!"schema {schema} takes {expected} arguments but {found} were given"

/-- A ground proposition such as `(on a b)`. -/
structure GroundAtom where
  predicate : Symbol
  args : List Symbol
  deriving DecidableEq, Repr

namespace GroundAtom

def ident (atom : GroundAtom) : String := identOf atom.predicate atom.args

def display (atom : GroundAtom) : String := "(" ++ atom.ident ++ ")"

def order (a b : GroundAtom) : Ordering := compare a.ident b.ident

/-- What a hash takes in: the identifier and nothing else. -/
def hashInto {σ : Type} (write : String → σ → σ) (atom : GroundAtom) (state : σ) : σ :=
  write atom.ident state

end GroundAtom

/-- Objects for parameters. A later pair takes the place of an earlier one. -/
abbrev Substitution := List (Symbol × Symbol)

def Substitution.find? (substitution : Substitution) (param : Symbol) : Option Symbol :=
  substitution.reverse.lookup param

/-- A proposition of a schema, such as `(on ?x table)`. Parameters that carry no
free mark are constants, and grounding leaves them alone. -/
structure LiftedAtom where
  predicate : Symbol
  params : List Symbol
  deriving DecidableEq, Repr

namespace LiftedAtom

def bindParam (predicate : Symbol) (substitution : Substitution) (param : Symbol) :
    Except BindError Symbol :=
  if param.isFree then
    match substitution.find? param with
    | some object => .ok object
    | none => .error (.missingSubstitution predicate param)
  else
    .ok param

def bind (atom : LiftedAtom) (substitution : Substitution) : Except BindError GroundAtom := do
  let args ← atom.params.mapM (bindParam atom.predicate substitution)
  return ⟨atom.predicate, args⟩

def display (atom : LiftedAtom) : String :=
  "(" ++ String.intercalate " " (atom.predicate :: atom.params) ++ ")"

end LiftedAtom

end SchemaNet
