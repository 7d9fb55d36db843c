import Mathlib.Algebra.BigOperators.Group.List.Lemmas
import Mathlib.Algebra.Order.BigOperators.GroupWithZero.List
import Mathlib.Algebra.Order.Ring.Nat
import SchemaNet.Network.Codec
import SchemaNet.Proofs.Network.Capacity
import SchemaNet.Proofs.Network.SnapshotMatching
import SchemaNet.Proofs.Planning.Forms

/-!
The JSON forms of architectures, weight blocks and snapshots. A number that is not finite has
no form of its own: what stands for it is refused. So the form of a snapshot is read back
exactly if all its weights are finite.
-/

namespace SchemaNet
open Json (Error Written Codes codes_nat codes_bool codes_list)
open Memory (bind_eq_ok)

/-- A finite number is written as a number of the grammar and read back as it was. Any other
number is written as null, which is refused. -/
class LawfulJsonScalar (α : Type) [Scalar α] [JsonScalar α] : Prop where
  finite : ∀ x : α, Scalar.isFinite x → ∃ number : Json.Number, number.WellFormed ∧
    JsonScalar.toJson x = .num number ∧ JsonScalar.ofJson (.num number) = .ok x
  other : ∀ x : α, ¬Scalar.isFinite x → JsonScalar.toJson x = .null
  null : ∀ x : α, JsonScalar.ofJson .null ≠ .ok x

/-! ## Arrays that can be numbered -/

namespace Size

theorem le_extent {dims : List Nat} {n : Nat} (mem : n ∈ dims) : n ≤ extent dims := by
  have positive : ∀ m ∈ dims.map (max · 1), 0 < m := by
    intro m mem
    obtain ⟨n, -, rfl⟩ := List.mem_map.1 mem
    omega
  rw [extent_eq, product, ← List.prod_eq_foldl]
  have factor : max n 1 ∈ dims.map (max · 1) := List.mem_map_of_mem mem
  exact Nat.le_trans (Nat.le_max_left n 1)
    (Nat.le_of_dvd (List.prod_pos positive) (List.dvd_prod factor))

/-- Every dimension of what can be numbered is a word. -/
theorem lt_wordLimit_of_mem {dims : List Nat} {n : Nat} (h : isIndexable dims) (mem : n ∈ dims) :
    n < wordLimit := by
  have below : greatest < wordLimit := by decide
  have bound : extent dims ≤ greatest := by simpa [isIndexable] using h
  have le := le_extent mem
  omega

end Size

variable {α : Type}

/-- An array of that rank whose positions can be numbered. -/
structure StoredArray.IsHeld (array : StoredArray α) (rank : Nat) : Prop where
  rank_eq : array.dims.length = rank
  indexable : Size.isIndexable array.dims
  size : array.data.length = Size.product array.dims

theorem Grid.isHeld {grid : Grid α} (h : Size.isIndexable grid.dims) :
    StoredArray.IsHeld ⟨grid.dims, grid.flat⟩ 2 :=
  ⟨rfl, h, by simp [grid.size, dims, Size.product]⟩

/-- The positions of the weights and of the biases can be numbered. -/
structure WeightBlock.IsHeld (block : WeightBlock α) : Prop where
  w : Size.isIndexable block.w.dims
  b : Size.isIndexable [block.b.length]

theorem WeightBlock.IsHeld.biases {block : WeightBlock α} (held : block.IsHeld) :
    StoredArray.IsHeld ⟨[block.b.length], block.b⟩ 1 :=
  ⟨rfl, held.b, by simp [Size.product]⟩

theorem WeightBlock.IsHeld.of_dims {block old : WeightBlock α} (held : old.IsHeld)
    (same : block.dims = old.dims) : block.IsHeld := by
  rw [dims, dims, List.cons.injEq, List.cons.injEq, List.cons.injEq] at same
  obtain ⟨inputs, outputs, biases, -⟩ := same
  have w := held.w
  rw [Grid.dims, ← show block.w.height = old.w.height from inputs,
    ← show block.w.width = old.w.width from outputs] at w
  exact ⟨w, biases ▸ held.b⟩

section Conditions

variable [Scalar α]

/-- The weights and the biases of a block are finite. -/
def WeightBlock.IsFinite (block : WeightBlock α) : Prop :=
  ∀ x ∈ block.w.flat ++ block.b, Scalar.isFinite x = true

def NamedBlocks.IsFinite (blocks : NamedBlocks α) : Prop :=
  ∀ entry ∈ blocks.entries, entry.2.IsFinite

end Conditions

theorem NamedBlocks.ofList_entries (blocks : NamedBlocks α) : ofList blocks.entries = blocks := by
  have distinct : (blocks.entries.map (·.1)).Nodup := by
    rw [List.Nodup, List.pairwise_map]
    exact blocks.sorted.imp fun less => String.ne_of_lt less
  exact eq_of_perm (ofList_perm distinct)

/-! ## Architectures -/

theorem LayerSizes.codes {sizes : LayerSizes} (act : sizes.act < Size.wordLimit)
    (prop : sizes.prop < Size.wordLimit) : Codes ofJson sizes.toJson sizes := by
  refine ⟨.obj (by simp [(codes_nat act).written, (codes_nat prop).written]), ?_⟩
  rw [ofJson, toJson, Json.fields_obj (by rfl) (by decide)]
  simp only [ok_bind]
  rw [(codes_nat act).required rfl, ok_bind, (codes_nat prop).required rfl]
  rfl

/-- The numbers of an architecture are words. -/
structure Architecture.InWords (arch : Architecture) : Prop where
  act : ∀ sizes ∈ arch.hidden, sizes.act < Size.wordLimit
  prop : ∀ sizes ∈ arch.hidden, sizes.prop < Size.wordLimit
  extraDim : arch.extraDim < Size.wordLimit

theorem Architecture.codes {arch : Architecture} (words : arch.InWords) :
    Codes ofJson arch.toJson arch := by
  have hidden := codes_list LayerSizes.ofJson fun sizes mem =>
    LayerSizes.codes (words.act sizes mem) (words.prop sizes mem)
  have extra := codes_nat words.extraDim
  refine ⟨.obj (by simp [hidden.written, extra.written, (codes_bool _).written]), ?_⟩
  rw [ofJson, toJson, Json.fields_obj (by rfl) (by decide)]
  simp only [ok_bind]
  rw [hidden.required rfl, ok_bind, extra.required rfl, ok_bind, (codes_bool _).required rfl]
  rfl

/-! ## Arrays and blocks -/

variable [JsonScalar α]

theorem StoredArray.ofJson_toJson {array : StoredArray α} {rank : Nat} (held : array.IsHeld rank) :
    ofJson rank array.toJson = ((array.data.map JsonScalar.toJson).mapM JsonScalar.ofJson >>=
      fun (data : List α) => ofParts ⟨true, some array.dims, some data⟩) := by
  have one : Codes (Json.asNat 8) (.nat version) version := Json.codes_nat (by decide)
  have dims := Json.codes_list (Json.asNat 64) fun n mem =>
    Json.codes_nat (Size.lt_wordLimit_of_mem held.indexable mem)
  simp only [ofJson, toJson, List.foldlM_cons, List.foldlM_nil, addPart, one.reads, dims.reads,
    ok_bind, held.rank_eq, if_true, pure_bind]
  rw [bind_pure, bind_assoc]
  rfl

variable [Scalar α] [LawfulJsonScalar α]

theorem LawfulJsonScalar.written (x : α) : Written (JsonScalar.toJson x) := by
  by_cases finite : Scalar.isFinite x
  · obtain ⟨number, formed, form, -⟩ := LawfulJsonScalar.finite x finite
    rw [form]
    exact .num formed
  · rw [LawfulJsonScalar.other x finite]
    exact .null

theorem LawfulJsonScalar.decodes (x : α) :
    Json.Decodes JsonScalar.ofJson (JsonScalar.toJson x) (Scalar.isFinite x = true) x := by
  intro result
  by_cases finite : Scalar.isFinite x
  · obtain ⟨number, -, form, read⟩ := LawfulJsonScalar.finite x finite
    rw [form, read]
    simp [finite, eq_comm]
  · rw [LawfulJsonScalar.other x finite]
    simp [finite, LawfulJsonScalar.null result]

namespace StoredArray

theorem written (array : StoredArray α) : Written array.toJson := by
  have number (n : Nat) : Written (.nat n) := .num (Json.Number.ofNat_wellFormed n)
  have dims : Written (.arr (array.dims.map .nat)) := .arr (by simp [number])
  have data : Written (.arr (array.data.map JsonScalar.toJson)) :=
    .arr (by simp [LawfulJsonScalar.written])
  exact .obj (by simp [number, dims, data])

theorem decodes {array : StoredArray α} {rank : Nat} (held : array.IsHeld rank) :
    Json.Decodes (ofJson rank) array.toJson (∀ x ∈ array.data, Scalar.isFinite x = true) array := by
  intro result
  have entries := Json.mapM_eq_ok_iff fun x (_ : x ∈ array.data) => LawfulJsonScalar.decodes x
  have made : (ofParts ⟨true, some array.dims, some array.data⟩ : Except Error _) = .ok array := by
    simp [ofParts, held.indexable, held.size]
  rw [ofJson_toJson held]
  exact Json.bind_eq_ok_iff entries made result

end StoredArray

theorem Grid.decodes {grid : Grid α} (h : Size.isIndexable grid.dims) :
    Json.Decodes ofJson grid.toJson (∀ x ∈ grid.flat, Scalar.isFinite x = true) grid := by
  intro result
  have made : ofFlat? grid.height grid.width grid.flat = some grid := dif_pos grid.size
  rw [ofJson, toJson]
  refine Json.bind_eq_ok_iff (StoredArray.decodes (isHeld h)) ?_ result
  simp only [dims, made]
  rfl

namespace WeightBlock

theorem written (block : WeightBlock α) : Written block.toJson :=
  .obj (by simp [Grid.toJson, StoredArray.written])

theorem decodes {block : WeightBlock α} (held : block.IsHeld) :
    Json.Decodes ofJson block.toJson block.IsFinite block := by
  intro result
  have w := Grid.decodes held.w
  have b := StoredArray.decodes held.biases
  rw [ofJson, toJson, Json.fields_obj (by rfl) (by decide)]
  simp only [ok_bind]
  rw [Json.Fields.required_eq rfl, Json.Fields.required_eq rfl]
  simp only [bind_eq_ok, w _, b _, IsFinite, List.forall_mem_append]
  constructor
  · rintro ⟨_, ⟨finiteW, rfl⟩, _, ⟨finiteB, rfl⟩, same⟩
    exact ⟨⟨finiteW, finiteB⟩, (Except.ok.inj same).symm⟩
  · rintro ⟨⟨finiteW, finiteB⟩, rfl⟩
    exact ⟨_, ⟨finiteW, rfl⟩, _, ⟨finiteB, rfl⟩, rfl⟩

end WeightBlock

namespace NamedBlocks

theorem written (blocks : NamedBlocks α) : Written blocks.toJson := by
  refine .obj fun member mem => ?_
  obtain ⟨entry, -, rfl⟩ := List.mem_map.1 mem
  exact entry.2.written

/-- A member of the form of blocks. -/
def readMember (member : String × Json) : Except Error (String × WeightBlock α) := do
  return (member.1, ← WeightBlock.ofJson member.2)

theorem readMember_eq_ok {entry : String × WeightBlock α} (held : entry.2.IsHeld)
    (result : String × WeightBlock α) :
    readMember (entry.1, entry.2.toJson) = .ok result ↔ entry.2.IsFinite ∧ result = entry :=
  Json.bind_eq_ok_iff (WeightBlock.decodes held) (by rfl) result

theorem decodes {blocks : NamedBlocks α} (held : ∀ entry ∈ blocks.entries, entry.2.IsHeld) :
    Json.Decodes ofJson blocks.toJson blocks.IsFinite blocks := by
  intro result
  have entries := Json.mapM_eq_ok_iff fun entry mem => readMember_eq_ok (held entry mem)
  refine Json.bind_eq_ok_iff entries ?_ result
  exact congrArg Except.ok blocks.ofList_entries

end NamedBlocks

namespace Snapshot

/-- The arrays of a snapshot can be numbered, and the numbers of its architecture are words. -/
structure IsHeld (snapshot : Snapshot α) : Prop where
  words : snapshot.arch.InWords
  blocks : ∀ entry ∈ snapshot.blocks.entries, entry.2.IsHeld

variable {snapshot : Snapshot α}

theorem written (held : snapshot.IsHeld) : Written snapshot.toJson :=
  .obj (by simp [snapshot.domain.codes.written, (Architecture.codes held.words).written,
    snapshot.blocks.written])

theorem decodes (held : snapshot.IsHeld) :
    Json.Decodes ofJson snapshot.toJson snapshot.blocks.IsFinite snapshot := by
  intro result
  rw [ofJson, toJson, Json.fields_obj (by rfl) (by decide)]
  simp only [ok_bind]
  rw [snapshot.domain.codes.required rfl, ok_bind, (Architecture.codes held.words).required rfl,
    ok_bind, Json.Fields.required_eq rfl]
  exact Json.bind_eq_ok_iff (NamedBlocks.decodes held.blocks) (by rfl) result

omit [Scalar α] [LawfulJsonScalar α] in
theorem parse_result (text : String) :
    (parse text : Logged Error (Snapshot α)).outcome.1 = Json.parse text >>= ofJson :=
  Logged.outcome_note _ _

/-- The text of a snapshot is read back if its weights are finite, and only then. -/
theorem parse_text (held : snapshot.IsHeld) (result : Snapshot α) :
    (parse snapshot.text).outcome.1 = .ok result ↔
      snapshot.blocks.IsFinite ∧ result = snapshot := by
  rw [parse_result, text, Json.parse_compact (written held), ok_bind]
  exact decodes held result

end Snapshot

end SchemaNet
