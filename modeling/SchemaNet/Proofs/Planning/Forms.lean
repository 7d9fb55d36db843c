import SchemaNet.Planning.Codec
import SchemaNet.Proofs.Json.Decoding

/-!
The JSON forms of a domain and of its parts, and those of ground entities, are read back as they
were. A domain has no fault, so it can be built again.
-/

namespace SchemaNet
open Json (Codes codes_text codes_texts codes_list)

theorem LiftedAtom.codes (atom : LiftedAtom) : Codes ofJson atom.toJson atom := by
  refine ⟨.obj (by simp [(codes_text _).written, (codes_texts _).written]), ?_⟩
  rw [ofJson, toJson, Json.fields_obj (by rfl) (by decide)]
  simp only [ok_bind]
  rw [(codes_text _).required rfl, ok_bind, (codes_texts _).required rfl]
  rfl

theorem GroundAtom.codes (atom : GroundAtom) : Codes ofJson atom.toJson atom := by
  refine ⟨.obj (by simp [(codes_text _).written, (codes_texts _).written]), ?_⟩
  rw [ofJson, toJson, Json.fields_obj (by rfl) (by decide)]
  simp only [ok_bind]
  rw [(codes_text _).required rfl, ok_bind, (codes_texts _).required rfl]
  rfl

theorem Schema.codes (schema : Schema) : Codes ofJson schema.toJson schema := by
  have relevant := codes_list LiftedAtom.ofJson fun atom (_ : atom ∈ schema.relevant) =>
    atom.codes
  refine ⟨.obj (by simp [(codes_text _).written, (codes_texts _).written, relevant.written]), ?_⟩
  rw [ofJson, toJson, Json.fields_obj (by rfl) (by decide)]
  simp only [ok_bind]
  rw [(codes_text _).required rfl, ok_bind, (codes_texts _).required rfl, ok_bind,
    relevant.required rfl]
  rfl

theorem GroundAction.codes (action : GroundAction) : Codes ofJson action.toJson action := by
  have slots := codes_list GroundAtom.ofJson fun atom (_ : atom ∈ action.slots) => atom.codes
  refine ⟨.obj (by simp [(codes_text _).written, (codes_texts _).written, slots.written]), ?_⟩
  rw [ofJson, toJson, Json.fields_obj (by rfl) (by decide)]
  simp only [ok_bind]
  rw [(codes_text _).required rfl, ok_bind, (codes_texts _).required rfl, ok_bind,
    slots.required rfl]
  rfl

theorem Domain.build_self (domain : Domain) :
    build domain.name domain.schemas domain.predicates = .ok domain := by
  unfold build
  split
  · next fault found => exact absurd (domain.faultless.symm.trans found) (by simp)
  · rfl

theorem Domain.codes (domain : Domain) : Codes ofJson domain.toJson domain := by
  have schemas := codes_list Schema.ofJson fun schema (_ : schema ∈ domain.schemas) =>
    schema.codes
  refine ⟨.obj (by simp [(codes_text _).written, (codes_texts _).written, schemas.written]), ?_⟩
  rw [ofJson, toJson, Json.fields_obj (by rfl) (by decide)]
  simp only [ok_bind]
  rw [(codes_text _).required rfl, ok_bind, schemas.required rfl, ok_bind,
    (codes_texts _).required rfl, ok_bind, Domain.build_self]
  rfl

/-- A note before a result does not change it. -/
theorem Logged.outcome_note {ε α : Type} (events : List Event) (result : Except ε α) :
    (do Logged.note events; Logged.ofExcept result : Logged ε α).outcome.1 = result := by
  rw [Logged.bind_outcome]
  exact Logged.ofExcept_run _ _ _

theorem Domain.parse_compact (domain : Domain) :
    (parse domain.toJson.compact).outcome.1 = .ok domain := by
  rw [parse, Logged.outcome_note, Json.parse_compact domain.codes.written, ok_bind,
    domain.codes.reads]

end SchemaNet
