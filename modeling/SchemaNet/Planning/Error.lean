import SchemaNet.Planning.Atom

/-!
Faults of a domain or problem description. Any of them stops the construction.
-/

namespace SchemaNet

inductive PlanningError where
  | bind (fault : BindError)
  | noRelevantSlots (predicate : Symbol)
  | unknownPredicate (predicate : Symbol)
  | unknownSchema (schema : Symbol)
  | duplicatePredicate (predicate : Symbol)
  | duplicateSchema (schema : Symbol)
  | duplicateProposition (ident : String)
  | duplicateAction (ident : String)
  | unknownProposition (action prop : String)
  | slotCount (action : String) (expected found : Nat)
  | slotMismatch (action : String) (slot : Nat) (expected found : Symbol)
  | slotBinding (action : String) (slot : Nat) (expected found : String)
  | unknownGoal (ident : String)
  | unknownIdent (ident : String)
  | freeVariableInGround (ident : String) (arg : Symbol)
  | mergeIndexOutOfRange (action : String) (index numActions : Nat)
  | domainMismatch (problem expected found : Symbol)
  deriving DecidableEq, Repr

def PlanningError.kind : PlanningError → String
  | .bind fault => "Bind/" ++ fault.kind
  | .noRelevantSlots .. => "NoRelevantSlots"
  | .unknownPredicate .. => "UnknownPredicate"
  | .unknownSchema .. => "UnknownSchema"
  | .duplicatePredicate .. => "DuplicatePredicate"
  | .duplicateSchema .. => "DuplicateSchema"
  | .duplicateProposition .. => "DuplicateProposition"
  | .duplicateAction .. => "DuplicateAction"
  | .unknownProposition .. => "UnknownProposition"
  | .slotCount .. => "SlotCount"
  | .slotMismatch .. => "SlotMismatch"
  | .slotBinding .. => "SlotBinding"
  | .unknownGoal .. => "UnknownGoal"
  | .unknownIdent .. => "UnknownIdent"
  | .freeVariableInGround .. => "FreeVariableInGround"
  | .mergeIndexOutOfRange .. => "MergeIndexOutOfRange"
  | .domainMismatch .. => "DomainMismatch"

def PlanningError.message : PlanningError → String
  | .bind fault => fault.message
  | .noRelevantSlots predicate => s!"predicate {predicate} does not appear in any action schema"
  | .unknownPredicate predicate => s!"unknown predicate {predicate}"
  | .unknownSchema schema => s!"unknown action schema {schema}"
  | .duplicatePredicate predicate => s!"duplicate predicate {predicate}"
  | .duplicateSchema schema => s!"duplicate action schema {schema}"
  | .duplicateProposition ident => s!"duplicate ground proposition ({ident})"
  | .duplicateAction ident => s!"duplicate ground action ({ident})"
  | .unknownProposition action prop =>
    s!"ground action ({action}) refers to ({prop}) which is not a proposition of the problem"
  | .slotCount action expected found =>
    s!"ground action ({action}) has {found} slots but its schema has {expected}"
  | .slotMismatch action slot expected found =>
    s!"slot {slot} of ground action ({action}) holds a {found} proposition, expected {expected}"
  | .slotBinding action slot expected found =>
    s!"slot {slot} of ground action ({action}) holds ({found}) "
      ++ s!"but its schema binds it to ({expected})"
  | .unknownGoal ident => s!"goal ({ident}) is not a proposition of the problem"
  | .unknownIdent ident => s!"no ground entity with identifier ({ident})"
  | .freeVariableInGround ident arg => s!"argument {arg} of ({ident}) is a free variable"
  | .mergeIndexOutOfRange action index numActions =>
    s!"merge index {index} of ({action}) is outside of [0, {numActions})"
  | .domainMismatch problem expected found =>
    s!"problem {problem} was grounded from domain {found}, expected {expected}"

/-- The first fault that `check` finds. It sees the elements before the one it
judges, the nearest first. -/
def firstFault {α ε : Type} (check : List α → α → Option ε) (before : List α) :
    List α → Option ε
  | [] => none
  | x :: rest => (check before x) <|> firstFault check (x :: before) rest

end SchemaNet
