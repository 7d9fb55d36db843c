import SchemaNet.Proofs.Planning.Forms
import SchemaNet.Proofs.Planning.Identifiers
import SchemaNet.Proofs.Planning.IndexedDomain
import SchemaNet.Proofs.Planning.ListingOrder

/-!
Extraction of domains and problems. A domain keeps the first occurrence of each lifted
proposition of a schema, and extracting it once more changes nothing. What a problem is built
from comes from the schemas and the listed propositions, so most faults of a problem cannot
occur here.
-/

namespace SchemaNet

/-- The elements of a list at the places where they stand first. -/
def firstOccurrences {α : Type} [DecidableEq α] (xs : List α) : List α :=
  (xs.zipIdx.filter fun (x, i) => x ∉ xs.take i).map (·.1)

theorem firstOccurrences_append_singleton {α : Type} [DecidableEq α] (xs : List α) (x : α) :
    firstOccurrences (xs ++ [x]) = firstOccurrences xs ++ if x ∈ xs then [] else [x] := by
  have early : xs.zipIdx.filter (fun (y, i) => y ∉ (xs ++ [x]).take i) =
      xs.zipIdx.filter fun (y, i) => y ∉ xs.take i := by
    refine List.filter_congr fun (y, i) mem => ?_
    have inside := (List.getElem?_eq_some_iff.1 (List.mk_mem_zipIdx_iff_getElem?.1 mem)).1
    dsimp only
    rw [List.take_append_of_le_length (Nat.le_of_lt inside)]
  rw [firstOccurrences, List.zipIdx_append, List.filter_append, List.map_append, early]
  by_cases known : x ∈ xs <;> simp [firstOccurrences, known]

theorem distinctBy_id {α : Type} [DecidableEq α] (xs : List α) :
    distinctBy id xs = firstOccurrences xs := by
  induction xs using List.reverseRecOn with
  | nil => rfl
  | append_singleton xs x ih =>
    rw [distinctBy_append_singleton, firstOccurrences_append_singleton, ih, List.map_id, id]

/-! ## Domains -/

/-- A schema as it is listed, but with each of its lifted propositions once. -/
structure Schema.KeepsFirst (own listed : Schema) : Prop where
  name : own.name = listed.name
  params : own.params = listed.params
  relevant : own.relevant = firstOccurrences listed.relevant
  distinct : own.relevant.Nodup
  same : ∀ atom, atom ∈ own.relevant ↔ atom ∈ listed.relevant

namespace Domain

theorem withDistinctRelevant_keepsFirst (schema : Schema) :
    (withDistinctRelevant schema).KeepsFirst schema where
  name := rfl
  params := rfl
  relevant := distinctBy_id schema.relevant
  distinct := by
    have distinct : ((distinctBy id schema.relevant).map id).Nodup := nodup_map_distinctBy _
    rwa [List.map_id] at distinct
  same atom := by
    have same : atom ∈ (distinctBy id schema.relevant).map id ↔ atom ∈ schema.relevant.map id :=
      mem_map_distinctBy
    rwa [List.map_id, List.map_id] at same

theorem withDistinctRelevant_idem (schema : Schema) :
    withDistinctRelevant (withDistinctRelevant schema) = withDistinctRelevant schema := by
  have distinct := (withDistinctRelevant_keepsFirst schema).distinct
  rw [← List.map_id (withDistinctRelevant schema).relevant] at distinct
  exact congrArg (Schema.mk schema.name schema.params) (distinctBy_eq_self distinct)

/-- What a grounder would list to get the domain. -/
def listing (domain : Domain) : DomainListing where
  name := domain.name
  predicates := domain.predicates
  schemas := domain.schemas

/-- The tables that the pass leaves for what is extracted from a listing. -/
def indexListing (listing : DomainListing) : Except Halt Tables :=
  indexLists (listing.schemas.map withDistinctRelevant) listing.predicates

/-- What a listing becomes in a domain. Each listed proposition has one slot in its schema, among
those of its predicate, so propositions that differ in their parameters have different slots. -/
structure Extracted (domain : Domain) (listing : DomainListing) : Prop where
  name : domain.name = listing.name
  predicates : domain.predicates = listing.predicates
  schemas : List.Forall₂ Schema.KeepsFirst domain.schemas listing.schemas
  slots : ∀ (s : SchemaId) (listed own : Schema), listing.schemas[s]? = some listed →
    domain.schemas[s]? = some own → ∀ atom ∈ listed.relevant, ∃ k, own.relevant[k]? = some atom ∧
      (∀ j, own.relevant[j]? = some atom → j = k) ∧
      ⟨s, k⟩ ∈ domain.actionSlots (domain.predicatePosition atom.predicate)
  again : extract domain.listing = .ok domain
  tables : indexListing domain.listing = indexListing listing

variable {domain : Domain}

theorem extracted {listing : DomainListing} (h : extract listing = .ok domain) :
    domain.Extracted listing := by
  obtain ⟨name, schemas, predicates⟩ := fields_of_build h
  have settled : domain.schemas.map withDistinctRelevant = domain.schemas := by
    rw [schemas, List.map_map]
    exact List.map_congr_left fun schema _ => withDistinctRelevant_idem schema
  have kept : List.Forall₂ Schema.KeepsFirst domain.schemas listing.schemas := by
    rw [schemas, List.forall₂_map_left_iff, List.forall₂_same]
    exact fun schema _ => withDistinctRelevant_keepsFirst schema
  refine ⟨name, predicates, kept, fun s listed own place place' atom among => ?_, ?_, ?_⟩
  · obtain ⟨own', hown, keeps⟩ := forall₂_getElem? kept place
    obtain rfl := Option.some.inj (place'.symm.trans hown)
    obtain ⟨k, hk⟩ := List.getElem?_of_mem ((keeps.same atom).2 among)
    refine ⟨k, hk, fun j hj => ?_, ?_⟩
    · have inside := (List.getElem?_eq_some_iff.1 hj).1
      exact (List.getElem?_inj inside keeps.distinct).1 (hj.trans hk.symm)
    · rw [mem_actionSlots_iff, relevantPredicates_of_getElem? place', List.getElem?_map, hk,
        Option.map_some]
  · have built := build_self domain
    rw [← settled] at built
    exact built
  · rw [indexListing, indexListing, ← schemas, ← predicates]
    exact congrArg (indexLists · domain.predicates) settled

end Domain

/-! ## Problems -/

namespace Problem

/-- The action that the schema of a listed one binds to its arguments. -/
def BoundBy (domain : Domain) (listed : ActionListing) (action : GroundAction) : Prop :=
  ∃ schema ∈ domain.schemas, schema.name = listed.schema ∧ schema.bind listed.args = .ok action

theorem ground_eq_ok {domain : Domain} {listed : ActionListing} {action : GroundAction} :
    domain.ground listed.schema listed.args = .ok action ↔ BoundBy domain listed action := by
  unfold Domain.ground
  split
  · next unknown =>
    simp only [reduceCtorEq, false_iff]
    rintro ⟨schema, mem, named, -⟩
    exact find?_key_eq_none.1 unknown (named ▸ List.mem_map_of_mem mem)
  · next schema found =>
    obtain ⟨mem, named⟩ := Domain.find?_name.1 found
    rw [mapError_eq_ok]
    constructor
    · exact fun bound => ⟨schema, mem, named, bound⟩
    · rintro ⟨other, hother, same, bound⟩
      obtain rfl := Option.some.inj (found.symm.trans (Domain.find?_name.2 ⟨hother, same⟩))
      exact bound

/-- The faults that an extraction can end with. A slot holds what its schema binds there, so it
does not match only if a proposition of another predicate has the same identifier. -/
inductive ExtractionFault (grounding : Grounding) (domain : Domain) : PlanningError → Prop
  | duplicatePredicate (name : Symbol) : ExtractionFault grounding domain (.duplicatePredicate name)
  | duplicateSchema (name : Symbol) : ExtractionFault grounding domain (.duplicateSchema name)
  | unknownPredicate (name : Symbol) : ExtractionFault grounding domain (.unknownPredicate name)
  | otherDomain (own : Domain) (extracted : Domain.extract grounding.domain = .ok own)
      (apart : own ≠ domain) :
      ExtractionFault grounding domain (.domainMismatch grounding.name domain.name own.name)
  | unknownSchema (name : Symbol) : ExtractionFault grounding domain (.unknownSchema name)
  | bind (fault : BindError) : ExtractionFault grounding domain (.bind fault)
  | freeVariable (ident : String) (arg : Symbol) :
      ExtractionFault grounding domain (.freeVariableInGround ident arg)
  | duplicateProposition (ident : String) :
      ExtractionFault grounding domain (.duplicateProposition ident)
  | duplicateAction (ident : String) : ExtractionFault grounding domain (.duplicateAction ident)
  | unknownProposition (action prop : String) :
      ExtractionFault grounding domain (.unknownProposition action prop)
  | sharedIdent (action : String) (slot : Nat) (listed held : GroundAtom)
      (known : listed.predicate ∈ domain.predicates) (asked : held.predicate ∈ domain.predicates)
      (same : listed.ident = held.ident) (apart : listed.predicate ≠ held.predicate) :
      ExtractionFault grounding domain (.slotMismatch action slot held.predicate held.predicate)

namespace ExtractionFault

variable {grounding : Grounding} {domain : Domain} {fault : PlanningError}

theorem of_lists {schemas : List Schema} {predicates : List Symbol}
    (h : Domain.fault? schemas predicates = some fault) :
    ExtractionFault grounding domain fault := by
  rw [Domain.fault?, Option.orElse_eq_some] at h
  rcases h with h | ⟨-, h⟩
  · obtain ⟨before, name, -, h⟩ := exists_of_firstFault h
    unfold Domain.predicateFault at h
    split at h
    · obtain rfl := Option.some.inj h
      exact duplicatePredicate name
    · cases h
  · obtain ⟨before, schema, -, h⟩ := exists_of_firstFault h
    unfold Domain.schemaFault at h
    split at h
    · obtain rfl := Option.some.inj h
      exact duplicateSchema schema.name
    · obtain ⟨atom, -, h⟩ := List.exists_of_findSome?_eq_some h
      split at h
      · cases h
      · obtain rfl := Option.some.inj h
        exact unknownPredicate atom.predicate

theorem of_ground {name : Symbol} {args : List Symbol}
    (h : domain.ground name args = .error fault) :
    ExtractionFault grounding domain fault := by
  unfold Domain.ground at h
  split at h
  · obtain rfl := Except.error.inj h
    exact unknownSchema name
  · obtain ⟨found, -, rfl⟩ := mapError_eq_error.1 h
    exact bind found

theorem of_prop {before : List GroundAtom} {prop : GroundAtom}
    (h : propFault domain before prop = some fault) : ExtractionFault grounding domain fault := by
  unfold propFault at h
  split at h
  · next arg _ =>
    obtain rfl := Option.some.inj h
    exact freeVariable prop.ident arg
  · split at h
    · obtain rfl := Option.some.inj h
      exact duplicateProposition prop.ident
    · split at h
      · cases h
      · obtain rfl := Option.some.inj h
        exact unknownPredicate prop.predicate

section Slots

variable {props : List GroundAtom} {action : String}
  (known : ∀ prop ∈ props, prop.predicate ∈ domain.predicates)
include known

theorem of_slot {slot : Nat} {atom : LiftedAtom} {held : GroundAtom}
    (own : held.predicate = atom.predicate) (asked : atom.predicate ∈ domain.predicates)
    (h : slotFault props action slot atom held held = some fault) :
    ExtractionFault grounding domain fault := by
  unfold slotFault at h
  split at h
  · obtain rfl := Option.some.inj h
    exact unknownProposition action held.ident
  · next listed found =>
    have same : listed.ident = held.ident := by simpa using List.find?_some found
    split at h
    · next apart =>
      obtain rfl := Option.some.inj h
      rw [← own] at apart asked ⊢
      exact sharedIdent action slot listed held (known _ (List.mem_of_find?_eq_some found)) asked
        same apart
    · rw [if_neg (not_not_intro rfl)] at h
      cases h

theorem of_slots {slot : Nat} {atoms : List LiftedAtom} {helds : List GroundAtom}
    (own : List.Forall₂ (fun atom held => held.predicate = atom.predicate) atoms helds)
    (asked : ∀ atom ∈ atoms, atom.predicate ∈ domain.predicates)
    (h : slotsFault props action slot atoms helds helds = some fault) :
    ExtractionFault grounding domain fault := by
  induction own generalizing slot with
  | nil => cases h
  | cons first _ ih =>
    rw [List.forall_mem_cons] at asked
    rw [slotsFault, Option.orElse_eq_some] at h
    rcases h with h | ⟨-, h⟩
    · exact of_slot known first asked.1 h
    · exact ih asked.2 h

/-- The action has the slots that its schema binds, so it has as many as the schema. -/
theorem of_action {listed : ActionListing} {action : GroundAction} {before : List GroundAction}
    (bound : BoundBy domain listed action)
    (h : actionFault domain props before action = some fault) :
    ExtractionFault grounding domain fault := by
  obtain ⟨schema, mem, -, bound⟩ := bound
  obtain ⟨-, slots, -, made⟩ := Schema.bind_eq_ok.1 bound
  have name : action.schema = schema.name := by rw [made]
  have args : action.args = listed.args := by rw [made]
  unfold actionFault at h
  rw [Domain.find?_name.2 ⟨mem, name.symm⟩, args] at h
  dsimp only at h
  rw [bound] at h
  split at h
  · obtain rfl := Option.some.inj h
    exact duplicateAction action.ident
  · rw [if_neg (not_not_intro (Schema.bind_slots_length bound))] at h
    exact of_slots known (Schema.predicates_of_bind bound)
      (fun atom among => Domain.relevant_listed mem among) h

end Slots

theorem of_entities {actions : List GroundAction} {props goals : List GroundAtom}
    (sorted : props.Pairwise fun a b => a.ident ≤ b.ident)
    (bound : ∀ action ∈ actions, ∃ listed, BoundBy domain listed action) (listed : goals ⊆ props)
    (h : fault? domain actions props goals = some fault) :
    ExtractionFault grounding domain fault := by
  -- Every goal is one of the propositions.
  have noGoal : goals.findSome? (goalFault props) = none := by
    rw [List.findSome?_eq_none_iff]
    exact fun goal mem => goalFault_eq_none.2 (List.mem_map_of_mem (listed mem))
  rw [fault?, Option.orElse_eq_some, Option.orElse_eq_some, noGoal] at h
  rcases h with h | ⟨clean, h | ⟨-, h⟩⟩
  · obtain ⟨before, prop, -, h⟩ := exists_of_firstFault h
    exact of_prop h
  · cases h
  · obtain ⟨before, action, mem, h⟩ := exists_of_firstFault h
    obtain ⟨listed, own⟩ := bound action mem
    have admissible := ((firstFault_nil_sorted (fun _ _ => propFault_eq_none) sorted).1 clean).2
    exact of_action (fun prop among => (admissible prop among).known) own h

theorem of_extract (h : extract grounding domain = .error fault) :
    ExtractionFault grounding domain fault := by
  rcases bind_eq_error.1 h with h | ⟨own, extracted, h⟩
  · exact of_lists (Domain.build_eq_error.1 h)
  · unfold extractOver at h
    split at h
    · next apart =>
      obtain rfl := Except.error.inj h
      exact otherDomain own extracted apart
    · rcases bind_eq_error.1 h with h | ⟨actions, grounded, h⟩
      · obtain ⟨listed, -, h⟩ := exists_of_mapM_eq_error h
        exact of_ground h
      · have bound : ∀ action ∈ actions, ∃ listed, BoundBy domain listed action := by
          intro action mem
          obtain ⟨listed, -, made⟩ := forall₂_mem_right (mapM_eq_ok.1 grounded) mem
          exact ⟨listed, ground_eq_ok.1 made⟩
        -- The canonical lists hold what was bound and what was listed, in another order.
        refine of_entities (canonical_pairwise _ _) (fun action mem => ?_) (fun goal mem => ?_)
          (build_eq_error.1 h)
        · exact bound action ((canonical_perm _ _).mem_iff.1 mem)
        · rw [(canonical_perm _ _).mem_iff]
          have among := (canonical_perm _ _).mem_iff.1 (mem_of_mem_distinctBy mem)
          obtain ⟨entry, own, rfl⟩ := List.mem_map.1 among
          exact List.mem_map_of_mem (List.mem_filter.1 own).1

end ExtractionFault

/-- A domain keeps what is listed for it, each lifted proposition of a schema once, and is
extracted from its own lists again. A problem is never refused for its own domain. Its goals and
its slots are never at fault, unless two predicates share an identifier. -/
theorem extraction_keeps_first_occurrences :
    (∀ (listing : DomainListing) (domain : Domain), Domain.extract listing = .ok domain →
      domain.Extracted listing) ∧
    (∀ (grounding : Grounding) (own : Domain), Domain.extract grounding.domain = .ok own →
      ∀ problem expected found,
        extract grounding own ≠ .error (.domainMismatch problem expected found)) ∧
    ∀ (grounding : Grounding) (domain : Domain),
      (∀ ident, extract grounding domain ≠ .error (.unknownGoal ident)) ∧
      (∀ action expected found,
        extract grounding domain ≠ .error (.slotCount action expected found)) ∧
      (∀ action slot expected found,
        extract grounding domain ≠ .error (.slotBinding action slot expected found)) ∧
      ((∀ predicate ∈ domain.predicates, predicate.Plain) → ∀ action slot expected found,
        extract grounding domain ≠ .error (.slotMismatch action slot expected found)) := by
  refine ⟨fun _ _ => Domain.extracted, fun grounding own extracted problem expected found h => ?_,
    fun grounding domain => ⟨?_, ?_, ?_, ?_⟩⟩
  · cases ExtractionFault.of_extract h with
    | otherDomain other extracted' apart =>
      exact apart (Except.ok.inj (extracted'.symm.trans extracted))
  · intro ident h
    cases ExtractionFault.of_extract h
  · intro action expected found h
    cases ExtractionFault.of_extract h
  · intro action slot expected found h
    cases ExtractionFault.of_extract h
  · intro plain action slot expected found h
    cases ExtractionFault.of_extract h with
    | sharedIdent _ _ listed held known asked same apart =>
      exact apart (identOf_head_inj (plain _ known) (plain _ asked) same)

/-- What a grounder lists for the domain of the walks, with repeated propositions. -/
def walkListing : DomainListing where
  name := "walks"
  predicates := ["at"]
  schemas :=
    [⟨"walk", ["?x", "?y"], [⟨"at", ["?x"]⟩, ⟨"at", ["?x"]⟩, ⟨"at", ["?y"]⟩, ⟨"at", ["?x"]⟩]⟩,
    ⟨"ring", [], [⟨"at", ["depot"]⟩]⟩, ⟨"wait", ["?x"], [⟨"at", ["?x"]⟩, ⟨"at", ["?x"]⟩]⟩]

theorem walk_extracted_once :
    Domain.extract walkListing = .ok WalkDomain.domain ∧ WalkDomain.domain.Extracted walkListing ∧
      (∀ problem expected found, extract { walkGrounding with domain := walkListing }
        WalkDomain.domain ≠ .error (.domainMismatch problem expected found)) ∧
      (∀ predicate ∈ WalkDomain.domain.predicates, predicate.Plain) ∧
      ∀ action slot expected found, extract { walkGrounding with domain := walkListing }
        WalkDomain.domain ≠ .error (.slotMismatch action slot expected found) := by
  obtain ⟨keeps, own, others⟩ := extraction_keeps_first_occurrences
  have extracted : Domain.extract walkListing = .ok WalkDomain.domain := by decide
  have plain : ∀ predicate ∈ WalkDomain.domain.predicates, predicate.Plain := by decide
  have never := own { walkGrounding with domain := walkListing } _ extracted
  exact ⟨extracted, keeps _ _ extracted, never, plain, (others _ _).2.2.2 plain⟩

/-- A space in a name lets two predicates share an identifier. -/
example :
    fault? ⟨"beds", [⟨"sleep", [], [⟨"on", ["a", "bed"]⟩]⟩], ["on", "on a"], by decide⟩
      [⟨"sleep", [], [⟨"on", ["a", "bed"]⟩]⟩] [⟨"on a", ["bed"]⟩] [] =
        some (.slotMismatch "sleep" 0 "on" "on") := by
  decide

end Problem

end SchemaNet
