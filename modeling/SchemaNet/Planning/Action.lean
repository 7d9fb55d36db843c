import SchemaNet.Planning.Atom

/-!
Action schemas and their ground instances. The slots of a schema are its
relevant propositions, in order; an instance holds one ground proposition for
each of them.
-/

namespace SchemaNet

/-- An action with the propositions that fill the slots of its schema. Like a
proposition it is known by its identifier. -/
structure GroundAction where
  schema : Symbol
  args : List Symbol
  slots : List GroundAtom
  deriving DecidableEq, Repr

namespace GroundAction

def ident (action : GroundAction) : String := identOf action.schema action.args

def display (action : GroundAction) : String := "(" ++ action.ident ++ ")"

def order (a b : GroundAction) : Ordering := compare a.ident b.ident

def hashInto {σ : Type} (write : String → σ → σ) (action : GroundAction) (state : σ) : σ :=
  write action.ident state

end GroundAction

/-- An action template. The order of `relevant` matters, and one predicate may
fill several slots. -/
structure Schema where
  name : Symbol
  params : List Symbol
  relevant : List LiftedAtom
  deriving DecidableEq, Repr

namespace Schema

/-- Arguments stand for the parameters by position. -/
def bind (schema : Schema) (args : List Symbol) : Except BindError GroundAction :=
  if schema.params.length < args.length then
    .error (.tooManyArguments schema.name schema.params.length args.length)
  else
    match schema.params[args.length]? with
    | some param => .error (.missingArgument schema.name param)
    | none => do
      let slots ← schema.relevant.mapM fun atom => atom.bind (schema.params.zip args)
      return ⟨schema.name, args, slots⟩

/-- The order of schemas looks at the name, then at the parameters. -/
def order (a b : Schema) : Ordering :=
  (compare a.name b.name).then (compare a.params b.params)

def display (schema : Schema) : String :=
  schema.name ++ "(" ++ String.intercalate ", " schema.params ++ ") ["
    ++ String.intercalate ", " (schema.relevant.map LiftedAtom.display) ++ "]"

end Schema

end SchemaNet
