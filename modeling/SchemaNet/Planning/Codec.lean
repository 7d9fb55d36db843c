import SchemaNet.Json.Decode
import SchemaNet.Json.Reader
import SchemaNet.Json.Writer
import SchemaNet.Planning.Instance

/-!
JSON forms of the planning types. Only what defines a value is written: reading
sorts and checks again, and rebuilds every table.
-/

namespace SchemaNet

open Json (Error)

namespace LiftedAtom

def toJson (atom : LiftedAtom) : Json :=
  .obj [("predicate", .str atom.predicate), ("params", Json.texts atom.params)]

def ofJson (value : Json) : Except Error LiftedAtom := do
  let fields ← value.fields ["predicate", "params"]
  return ⟨← fields.required "predicate" Json.asText,
    ← fields.required "params" (Json.asList Json.asText)⟩

end LiftedAtom

namespace GroundAtom

def toJson (atom : GroundAtom) : Json :=
  .obj [("predicate", .str atom.predicate), ("args", Json.texts atom.args)]

def ofJson (value : Json) : Except Error GroundAtom := do
  let fields ← value.fields ["predicate", "args"]
  return ⟨← fields.required "predicate" Json.asText,
    ← fields.required "args" (Json.asList Json.asText)⟩

end GroundAtom

namespace Schema

def toJson (schema : Schema) : Json :=
  .obj [("name", .str schema.name), ("params", Json.texts schema.params),
    ("relevant", .arr (schema.relevant.map LiftedAtom.toJson))]

def ofJson (value : Json) : Except Error Schema := do
  let fields ← value.fields ["name", "params", "relevant"]
  return ⟨← fields.required "name" Json.asText,
    ← fields.required "params" (Json.asList Json.asText),
    ← fields.required "relevant" (Json.asList LiftedAtom.ofJson)⟩

end Schema

namespace GroundAction

def toJson (action : GroundAction) : Json :=
  .obj [("schema", .str action.schema), ("args", Json.texts action.args),
    ("props", .arr (action.slots.map GroundAtom.toJson))]

def ofJson (value : Json) : Except Error GroundAction := do
  let fields ← value.fields ["schema", "args", "props"]
  return ⟨← fields.required "schema" Json.asText,
    ← fields.required "args" (Json.asList Json.asText),
    ← fields.required "props" (Json.asList GroundAtom.ofJson)⟩

end GroundAction

namespace Slot

def toJson (slot : Slot) : Json :=
  .obj [("schema", .nat slot.schema), ("slot", .nat slot.slot)]

def ofJson (value : Json) : Except Error Slot := do
  let fields ← value.fields ["schema", "slot"]
  return ⟨← fields.required "schema" (Json.asNat 32), ← fields.required "slot" (Json.asNat 64)⟩

end Slot

namespace Domain

def toJson (domain : Domain) : Json :=
  .obj [("name", .str domain.name), ("schemas", .arr (domain.schemas.map Schema.toJson)),
    ("predicates", Json.texts domain.predicates)]

def ofJson (value : Json) : Except Error Domain := do
  let fields ← value.fields ["name", "schemas", "predicates"]
  let name ← fields.required "name" Json.asText
  let schemas ← fields.required "schemas" (Json.asList Schema.ofJson)
  let predicates ← fields.required "predicates" (Json.asList Json.asText)
  (build name schemas predicates).mapError fun fault => .rejected fault.message

/-- What is reported about the domain at the beginning of a text: it is built as soon as it is
read, whatever follows. -/
def readingNotices (text : String) : List Event :=
  match (Json.first? text).map ofJson with
  | some (.ok domain) => domain.notices
  | _ => []

def parse (text : String) : Logged Error Domain := do
  Logged.note (readingNotices text)
  Logged.ofExcept (do ofJson (← Json.parse text))

end Domain

namespace Problem

def toJson (problem : Problem) : Json :=
  .obj [("name", .str problem.name), ("domain", problem.domain.toJson),
    ("actions", .arr (problem.actions.map GroundAction.toJson)),
    ("props", .arr (problem.props.map GroundAtom.toJson)),
    ("goals", .arr (problem.goals.map GroundAtom.toJson))]

def fieldNames : List String := ["name", "domain", "actions", "props", "goals"]

def ofJson (value : Json) : Except Error Problem := do
  let fields ← value.fields fieldNames
  let name ← fields.required "name" Json.asText
  let domain ← fields.required "domain" Domain.ofJson
  let actions ← fields.required "actions" (Json.asList GroundAction.ofJson)
  let props ← fields.required "props" (Json.asList GroundAtom.ofJson)
  let goals ← fields.required "goals" (Json.asList GroundAtom.ofJson)
  (build name domain actions props goals).mapError fun fault => .rejected fault.message

/-- What a field reports when it is read. -/
def fieldNotices (name : String) (value : Json) : Except Error (List Event) :=
  match name with
  | "name" => Json.silent Json.asText value
  | "domain" => (Domain.ofJson value).map Domain.notices
  | "actions" => Json.silent (Json.asList GroundAction.ofJson) value
  | _ => Json.silent (Json.asList GroundAtom.ofJson) value

/-- What is reported about the problem at the beginning of a text: its domain is built before
the fields that follow are read. -/
def readingNotices (text : String) : List Event :=
  (Json.leading text).reports fieldNames fieldNotices ++
    match (Json.first? text).map ofJson with
    | some (.ok problem) => problem.notices
    | _ => []

def parse (text : String) : Logged Error Problem := do
  Logged.note (readingNotices text)
  Logged.ofExcept (do ofJson (← Json.parse text))

end Problem

namespace DomainListing

def toJson (listing : DomainListing) : Json :=
  .obj [("name", .str listing.name), ("predicates", Json.texts listing.predicates),
    ("schemas", .arr (listing.schemas.map Schema.toJson))]

def ofJson (value : Json) : Except Error DomainListing := do
  let fields ← value.fields ["name", "predicates", "schemas"]
  return ⟨← fields.required "name" Json.asText,
    ← fields.required "predicates" (Json.asList Json.asText),
    ← fields.required "schemas" (Json.asList Schema.ofJson)⟩

end DomainListing

namespace PropListing

def toJson (listing : PropListing) : Json :=
  .obj [("predicate", .str listing.predicate), ("args", Json.texts listing.args),
    ("goal", .bool listing.goal), ("init", .bool listing.init)]

def ofJson (value : Json) : Except Error PropListing := do
  let fields ← value.fields ["predicate", "args", "goal", "init"]
  return ⟨← fields.required "predicate" Json.asText,
    ← fields.optional "args" [] (Json.asList Json.asText),
    ← fields.optional "goal" false Json.asBool,
    ← fields.optional "init" false Json.asBool⟩

end PropListing

namespace ActionListing

def toJson (listing : ActionListing) : Json :=
  .obj [("schema", .str listing.schema), ("args", Json.texts listing.args)]

def ofJson (value : Json) : Except Error ActionListing := do
  let fields ← value.fields ["schema", "args"]
  return ⟨← fields.required "schema" Json.asText,
    ← fields.optional "args" [] (Json.asList Json.asText)⟩

end ActionListing

namespace ProblemListing

def toJson (listing : ProblemListing) : Json :=
  .obj [("name", .str listing.name), ("props", .arr (listing.props.map PropListing.toJson)),
    ("actions", .arr (listing.actions.map ActionListing.toJson))]

def ofJson (value : Json) : Except Error ProblemListing := do
  let fields ← value.fields ["name", "props", "actions"]
  return ⟨← fields.required "name" Json.asText,
    ← fields.required "props" (Json.asList PropListing.ofJson),
    ← fields.required "actions" (Json.asList ActionListing.ofJson)⟩

end ProblemListing

namespace Instance

def toJson (inst : Instance) : Json :=
  .obj [("domain", inst.domain.toJson), ("problem", inst.problem.toJson)]

def ofJson (value : Json) : Except Error Instance := do
  let fields ← value.fields ["domain", "problem"]
  return ⟨← fields.required "domain" DomainListing.ofJson,
    ← fields.required "problem" ProblemListing.ofJson⟩

def parse (text : String) : Except Error Instance := do
  ofJson (← Json.parse text)

def text (inst : Instance) : String := inst.toJson.pretty

end Instance

end SchemaNet
