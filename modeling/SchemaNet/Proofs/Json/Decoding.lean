import SchemaNet.Json.Decode
import SchemaNet.Proofs.Json.RoundTrip
import SchemaNet.Proofs.Traversal

/-!
Structures and their JSON forms. A form is a written value that is read back if all its parts
are; the fields of an object have different names, so each one is found.
-/

namespace SchemaNet.Json
open Memory (bind_eq_ok)

/-- A value has a form that can be written and that is read back as this value. -/
structure Codes {α : Type} (read : Json → Except Error α) (form : Json) (value : α) : Prop where
  written : Written form
  reads : read form = .ok value

/-! ## Objects -/

theorem knownMembers_eq_ok {names : List String} (found : Fields) {members : Fields}
    (known : ∀ name ∈ members.map (·.1), name ∈ names)
    (distinct : ((found ++ members).map (·.1)).Nodup) :
    knownMembers names found members = .ok (found ++ members) := by
  induction members generalizing found with
  | nil => simp [knownMembers]
  | cons member rest ih =>
    obtain ⟨key, value⟩ := member
    have fresh : key ∉ found.map (·.1) := by
      rw [List.map_append, List.nodup_append] at distinct
      exact fun mem => distinct.2.2 key mem key (by simp) rfl
    rw [knownMembers, if_pos (known key (by simp)), if_neg fresh,
      ih (found ++ [(key, value)]) (fun name mem => known name (List.mem_cons_of_mem _ mem))
        (by simpa using distinct)]
    simp

/-- An object with all fields of a structure. -/
theorem fields_obj {names : List String} {members : Fields} (same : members.map (·.1) = names)
    (distinct : names.Nodup) : fields names (.obj members) = .ok members := by
  rw [← same] at distinct
  exact knownMembers_eq_ok [] (fun name mem => same ▸ mem) distinct

theorem Fields.required_eq {α : Type} {fields : Fields} {name : String} {value : Json}
    (found : fields.lookup name = some value) (read : Json → Except Error α) :
    fields.required name read = read value := by
  rw [required, found]

theorem Codes.required {α : Type} {fields : Fields} {name : String} {form : Json} {value : α}
    {read : Json → Except Error α} (part : Codes read form value)
    (found : fields.lookup name = some form) : fields.required name read = .ok value := by
  rw [Fields.required_eq found, part.reads]

/-! ## Texts, numbers and lists -/

theorem codes_text (text : String) : Codes asText (.str text) text := ⟨.str text, rfl⟩

theorem codes_bool (value : Bool) : Codes asBool (.bool value) value := ⟨.bool value, rfl⟩

theorem codes_nat {bits n : Nat} (h : n < Nat.pow 2 bits) : Codes (asNat bits) (.nat n) n := by
  refine ⟨.num (Number.ofNat_wellFormed n), ?_⟩
  rw [nat, asNat, Number.toNat?_ofNat]
  exact if_pos h

theorem codes_list {α : Type} (read : Json → Except Error α) {write : α → Json} {items : List α}
    (each : ∀ item ∈ items, Codes read (write item) item) :
    Codes (asList read) (.arr (items.map write)) items := by
  refine ⟨.arr fun form mem => ?_, ?_⟩
  · obtain ⟨item, own, rfl⟩ := List.mem_map.1 mem
    exact (each item own).written
  · have all : List.Forall₂ (fun form item => read form = .ok item) (items.map write) items := by
      rw [List.forall₂_map_left_iff, List.forall₂_same]
      exact fun item own => (each item own).reads
    exact mapM_eq_ok.2 all

theorem codes_texts (items : List String) : Codes (asList asText) (texts items) items :=
  codes_list asText fun item _ => codes_text item

/-! ## Forms that are read back under a condition -/

variable {β : Type}

/-- A form that is read back under a condition, as this value and no other. -/
def Decodes (read : Json → Except Error β) (form : Json) (good : Prop) (value : β) : Prop :=
  ∀ result, read form = .ok result ↔ good ∧ result = value

theorem bind_eq_ok_iff {γ : Type} {first : Except Error β} {good : Prop} {value : β}
    (h : ∀ result, first = .ok result ↔ good ∧ result = value) {next : β → Except Error γ}
    {made : γ} (own : next value = .ok made) (result : γ) :
    first >>= next = .ok result ↔ good ∧ result = made := by
  rw [bind_eq_ok]
  constructor
  · rintro ⟨read, same, later⟩
    obtain ⟨holds, rfl⟩ := (h read).1 same
    exact ⟨holds, Except.ok.inj (later.symm.trans own)⟩
  · rintro ⟨holds, rfl⟩
    exact ⟨value, (h value).2 ⟨holds, rfl⟩, own⟩

theorem mapM_eq_ok_iff {γ : Type} {read : γ → Except Error β} {write : β → γ} {good : β → Prop}
    {items : List β}
    (each : ∀ item ∈ items, ∀ result, read (write item) = .ok result ↔ good item ∧ result = item)
    (result : List β) :
    (items.map write).mapM read = .ok result ↔ (∀ item ∈ items, good item) ∧ result = items := by
  rw [mapM_eq_ok, List.forall₂_map_left_iff]
  induction items generalizing result with
  | nil => simp
  | cons item rest ih =>
    have first := each item (by simp)
    have others := ih fun own mem => each own (List.mem_cons_of_mem _ mem)
    rw [List.forall₂_cons_left_iff, List.forall_mem_cons]
    constructor
    · rintro ⟨own, more, same, later, rfl⟩
      obtain ⟨goodItem, rfl⟩ := (first own).1 same
      obtain ⟨goodRest, rfl⟩ := (others more).1 later
      exact ⟨⟨goodItem, goodRest⟩, rfl⟩
    · rintro ⟨⟨goodItem, goodRest⟩, rfl⟩
      exact ⟨item, rest, (first item).2 ⟨goodItem, rfl⟩, (others rest).2 ⟨goodRest, rfl⟩, rfl⟩

end SchemaNet.Json
