import SchemaNet.Journal
import SchemaNet.Planning.Action
import SchemaNet.Planning.Error

/-!
A planning domain: its schemas, its predicates, and the relation between them
that the network is wired by. Schemas and predicates are numbered by position.
A value of `Domain` has no fault: predicate names and schema names do not
repeat, and every relevant proposition is built on a listed predicate.
-/

namespace SchemaNet

abbrev SchemaId := Nat

abbrev PredId := Nat

def SchemaId.label (id : SchemaId) : String := s!"SchemaId#{id}"

def PredId.label (id : PredId) : String := s!"PredId#{id}"

/-- The slot of a schema, by the position of its relevant proposition. -/
structure Slot where
  schema : SchemaId
  slot : Nat
  deriving DecidableEq, Repr

def Slot.label (slot : Slot) : String := s!"{SchemaId.label slot.schema}[{slot.slot}]"

namespace Domain

def predicateFault (before : List Symbol) (predicate : Symbol) : Option PlanningError :=
  if predicate ∈ before then some (.duplicatePredicate predicate) else none

/-- A repeated name comes before a slot whose predicate is not listed. -/
def schemaFault (predicates : List Symbol) (before : List Schema) (schema : Schema) :
    Option PlanningError :=
  if schema.name ∈ before.map Schema.name then
    some (.duplicateSchema schema.name)
  else
    schema.relevant.findSome? fun atom =>
      if atom.predicate ∈ predicates then none else some (.unknownPredicate atom.predicate)

/-- All predicates are judged before the first schema. -/
def fault? (schemas : List Schema) (predicates : List Symbol) : Option PlanningError :=
  firstFault predicateFault [] predicates <|> firstFault (schemaFault predicates) [] schemas

end Domain

structure Domain where
  name : Symbol
  schemas : List Schema
  predicates : List Symbol
  faultless : Domain.fault? schemas predicates = none
  deriving DecidableEq

namespace Domain

def build (name : Symbol) (schemas : List Schema) (predicates : List Symbol) :
    Except PlanningError Domain :=
  match faultless : fault? schemas predicates with
  | some fault => .error fault
  | none => .ok ⟨name, schemas, predicates, faultless⟩

def numSchemas (domain : Domain) : Nat := domain.schemas.length

def numPredicates (domain : Domain) : Nat := domain.predicates.length

def schemaName (domain : Domain) (id : SchemaId) : Symbol :=
  ((domain.schemas[id]?).map Schema.name).getD ""

def predicateName (domain : Domain) (id : PredId) : Symbol :=
  (domain.predicates[id]?).getD ""

/-- Position of the first schema of that name, the number of schemas if there is none. -/
def schemaPosition (domain : Domain) (name : Symbol) : SchemaId :=
  domain.schemas.findIdx (·.name == name)

def predicatePosition (domain : Domain) (name : Symbol) : PredId :=
  domain.predicates.findIdx (· == name)

def schemaId (domain : Domain) (name : Symbol) : Except PlanningError SchemaId :=
  if domain.schemaPosition name < domain.numSchemas then
    .ok (domain.schemaPosition name)
  else
    .error (.unknownSchema name)

def predicateId (domain : Domain) (name : Symbol) : Except PlanningError PredId :=
  if domain.predicatePosition name < domain.numPredicates then
    .ok (domain.predicatePosition name)
  else
    .error (.unknownPredicate name)

/-- Predicates that fill the slots of a schema, by position and with repetitions. -/
def relevantPredicates (domain : Domain) (id : SchemaId) : List PredId :=
  ((domain.schemas[id]?).map Schema.relevant).getD [] |>.map fun atom =>
    domain.predicatePosition atom.predicate

/-- The slots of a schema that a predicate fills. -/
def slotsOf (predicate : Symbol) (id : SchemaId) (schema : Schema) : List Slot :=
  (schema.relevant.zipIdx.filter fun (atom, _) => atom.predicate == predicate).map fun (_, k) =>
    ⟨id, k⟩

/-- The slots that a predicate fills, ordered by schema and then by position. -/
def actionSlots (domain : Domain) (id : PredId) : List Slot :=
  match domain.predicates[id]? with
  | some predicate => domain.schemas.zipIdx.flatMap fun (schema, id) => slotsOf predicate id schema
  | none => []

/-- A predicate that fills no slot is refused: its modules would have no input. -/
def relevantSlots (domain : Domain) (id : PredId) : Except PlanningError (List Slot) :=
  match domain.actionSlots id with
  | [] => .error (.noRelevantSlots (domain.predicateName id))
  | slot :: rest => .ok (slot :: rest)

def relevantSlotsOf (domain : Domain) (predicate : Symbol) : Except PlanningError (List Slot) := do
  domain.relevantSlots (← domain.predicateId predicate)

def validate (domain : Domain) : Except PlanningError Unit :=
  (List.range domain.numPredicates).forM fun id => do
    let _ ← domain.relevantSlots id

def ground (domain : Domain) (schema : Symbol) (args : List Symbol) :
    Except PlanningError GroundAction :=
  match domain.schemas.find? (·.name == schema) with
  | none => .error (.unknownSchema schema)
  | some found => (found.bind args).mapError .bind

/-- The different lifted propositions, in the order in which they first occur. -/
def liftedAtoms (domain : Domain) : List LiftedAtom :=
  distinctBy id (domain.schemas.flatMap Schema.relevant)

def liftedAtomOf (domain : Domain) (predicate : Symbol) : Option LiftedAtom :=
  (domain.schemas.flatMap Schema.relevant).find? (·.predicate == predicate)

def display (domain : Domain) : String :=
  String.intercalate "\n  "
    (s!"Domain {domain.name}"
      :: ("predicates: " ++ String.intercalate ", " domain.predicates)
      :: domain.schemas.map Schema.display)

def notices (domain : Domain) : List Event :=
  [.debug s!"domain {domain.name}: {domain.numSchemas} schemas, {domain.numPredicates} predicates"]

end Domain

end SchemaNet
