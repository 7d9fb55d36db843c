import SchemaNet.Network.Snapshot
import SchemaNet.Network.StoredArray
import SchemaNet.Planning.Codec

/-!
JSON forms of architectures, modules, weight blocks and snapshots.
-/

namespace SchemaNet

open Json (Error)

/-- The alternatives of a choice: a name alone, or an object with the name and a value. -/
def Json.variant : Json → Except Error (String × Option Json)
  | .str name => .ok (name, none)
  | .obj [(name, value)] => .ok (name, some value)
  | _ => .error (.expected "one alternative")

namespace Activation

def toJson (activation : Activation) : Json := .str activation.label

/-- The name as it is written; as the name of an object's only member it stands beside null. -/
def ofJson (value : Json) : Except Error Activation := do
  let (name, content) ← value.variant
  match ofLabel? name, content with
  | some activation, none => return activation
  | some activation, some .null => return activation
  | _, _ => throw (.expected "the name of an activation")

end Activation

namespace LayerSizes

def toJson (sizes : LayerSizes) : Json := .obj [("act", .nat sizes.act), ("prop", .nat sizes.prop)]

def ofJson (value : Json) : Except Error LayerSizes := do
  let fields ← value.fields ["act", "prop"]
  return ⟨← fields.required "act" (Json.asNat 64), ← fields.required "prop" (Json.asNat 64)⟩

end LayerSizes

namespace Architecture

def toJson (arch : Architecture) : Json :=
  .obj [("hidden", .arr (arch.hidden.map LayerSizes.toJson)), ("extra_dim", .nat arch.extraDim),
    ("skip", .bool arch.skip)]

def ofJson (value : Json) : Except Error Architecture := do
  let fields ← value.fields ["hidden", "extra_dim", "skip"]
  return ⟨← fields.required "hidden" (Json.asList LayerSizes.ofJson),
    ← fields.required "extra_dim" (Json.asNat 64), ← fields.required "skip" Json.asBool⟩

end Architecture

namespace BlockKind

def toJson : BlockKind → Json
  | .action schema => .obj [("Action", .nat schema)]
  | .predicate pred => .obj [("Predicate", .nat pred)]

def ofJson (value : Json) : Except Error BlockKind := do
  match ← value.variant with
  | ("Action", some id) => return .action (← Json.asNat 32 id)
  | ("Predicate", some id) => return .predicate (← Json.asNat 32 id)
  | _ => throw (.expected "a schema or a predicate")

end BlockKind

namespace BlockKey

def toJson (key : BlockKey) : Json := .obj [("layer", .nat key.layer), ("kind", key.kind.toJson)]

def ofJson (value : Json) : Except Error BlockKey := do
  let fields ← value.fields ["layer", "kind"]
  return ⟨← fields.required "layer" (Json.asNat 64), ← fields.required "kind" BlockKind.ofJson⟩

end BlockKey

variable {α : Type} [JsonScalar α]

namespace ModuleConfig

def toJson (config : ModuleConfig α) : Json :=
  .obj [("activation", config.activation.toJson), ("pool_pad", JsonScalar.toJson config.pad),
    ("dropout", JsonScalar.toJson config.dropout)]

def ofJson (value : Json) : Except Error (ModuleConfig α) := do
  let fields ← value.fields ["activation", "pool_pad", "dropout"]
  return ⟨← fields.required "activation" Activation.ofJson,
    ← fields.required "pool_pad" JsonScalar.ofJson, ← fields.required "dropout" JsonScalar.ofJson⟩

end ModuleConfig

namespace Grid

def toJson (grid : Grid α) : Json := StoredArray.toJson ⟨grid.dims, grid.flat⟩

def ofJson (value : Json) : Except Error (Grid α) := do
  let array ← StoredArray.ofJson 2 value
  match array.dims with
  | [height, width] =>
    match ofFlat? height width array.data with
    | some grid => return grid
    | none => throw (.expected "one entry for each position")
  | _ => throw (.expected "two dimensions")

end Grid

namespace WeightBlock

def toJson (block : WeightBlock α) : Json :=
  .obj [("w", block.w.toJson), ("b", StoredArray.toJson ⟨[block.b.length], block.b⟩)]

def ofJson (value : Json) : Except Error (WeightBlock α) := do
  let fields ← value.fields ["w", "b"]
  let w ← fields.required "w" Grid.ofJson
  let b ← fields.required "b" (StoredArray.ofJson 1)
  return ⟨w, b.data⟩

end WeightBlock

namespace NamedBlocks

def toJson (blocks : NamedBlocks α) : Json :=
  .obj (blocks.entries.map fun (name, block) => (name, block.toJson))

def ofJson : Json → Except Error (NamedBlocks α)
  | .obj members => do
    return ofList (← members.mapM fun (name, value) => do return (name, ← WeightBlock.ofJson value))
  | _ => .error (.expected "blocks by name")

end NamedBlocks

namespace Snapshot

def toJson (snapshot : Snapshot α) : Json :=
  .obj [("domain", snapshot.domain.toJson), ("arch", snapshot.arch.toJson),
    ("blocks", snapshot.blocks.toJson)]

def fieldNames : List String := ["domain", "arch", "blocks"]

def ofJson (value : Json) : Except Error (Snapshot α) := do
  let fields ← value.fields fieldNames
  return ⟨← fields.required "domain" Domain.ofJson, ← fields.required "arch" Architecture.ofJson,
    ← fields.required "blocks" NamedBlocks.ofJson⟩

def text (snapshot : Snapshot α) : String := snapshot.toJson.compact

variable (α) in
def fieldNotices (name : String) (value : Json) : Except Error (List Event) :=
  match name with
  | "domain" => (Domain.ofJson value).map Domain.notices
  | "arch" => Json.silent Architecture.ofJson value
  | _ => Json.silent (NamedBlocks.ofJson (α := α)) value

/-- The snapshot that a text holds. Its domain is built, and reported, before the fields that
follow are read. -/
def parse (text : String) : Logged Error (Snapshot α) := do
  Logged.note ((Json.leading text).reports fieldNames (fieldNotices α))
  Logged.ofExcept (do ofJson (← Json.parse text)) fun _ => []

end Snapshot

end SchemaNet
