import SchemaNet.Planning.Problem
import SchemaNet.Proofs.Planning.Domain
import SchemaNet.Proofs.Traversal

/-!
Which problems are accepted. The checks look at sorted lists, at neighbours only and at
the first entity of an identifier; what they decide does not mention any order.
-/

namespace SchemaNet

/-- What a problem may list as a proposition. -/
structure GroundAtom.Admissible (domain : Domain) (prop : GroundAtom) : Prop where
  grounded : ∀ arg ∈ prop.args, arg.isFree = false
  known : prop.predicate ∈ domain.predicates

/-- An instance of a schema: its slots have the identifiers of the schema's relevant
propositions bound to its arguments, and each of these is listed under the predicate that
the schema asks for. -/
structure GroundAction.Instantiates (action : GroundAction) (schema : Schema)
    (props : List GroundAtom) : Prop where
  name : schema.name = action.schema
  count : action.slots.length = schema.relevant.length
  binds : ∃ bound, schema.bind action.args = .ok bound ∧
    bound.slots.map GroundAtom.ident = action.slots.map GroundAtom.ident
  listed : ∀ (k : Nat) (held : GroundAtom) (relevant : LiftedAtom),
    action.slots[k]? = some held → schema.relevant[k]? = some relevant →
      ∃ prop ∈ props, prop.ident = held.ident ∧ prop.predicate = relevant.predicate

namespace Problem

structure Accepted (domain : Domain) (actions : List GroundAction) (props goals : List GroundAtom) :
    Prop where
  props_distinct : (props.map GroundAtom.ident).Nodup
  props_admissible : ∀ prop ∈ props, prop.Admissible domain
  goals_listed : ∀ goal ∈ goals, goal.ident ∈ props.map GroundAtom.ident
  actions_distinct : (actions.map GroundAction.ident).Nodup
  actions_instantiate : ∀ action ∈ actions, ∃ schema ∈ domain.schemas,
    action.Instantiates schema props

/-! ## Neighbours in a sorted list -/

section Sorted

variable {β ε : Type} {ident : β → String} {check : List β → β → Option ε} {own : β → Prop}

/-- In a sorted list every repetition is a repetition of the element just before. -/
theorem firstFault_sorted
    (hcheck : ∀ before x, check before x = none ↔
      before.head?.map ident ≠ some (ident x) ∧ own x)
    {before xs : List β} (sorted : xs.Pairwise fun a b => ident a ≤ ident b)
    (above : ∀ y ∈ before.head?, ∀ x ∈ xs, ident y ≤ ident x) :
    firstFault check before xs = none ↔
      (∀ y ∈ before.head?, ∀ x ∈ xs, ident y ≠ ident x) ∧ (xs.map ident).Nodup ∧
        ∀ x ∈ xs, own x := by
  induction xs generalizing before with
  | nil => simp [firstFault]
  | cons x rest ih =>
    rw [List.pairwise_cons] at sorted
    have next : firstFault check (x :: before) rest = none ↔ _ :=
      ih sorted.2 (by simpa using sorted.1)
    rw [firstFault_cons, hcheck, next]
    simp only [List.head?_cons, Option.mem_some_iff, forall_eq', List.map_cons, List.nodup_cons,
      List.forall_mem_cons, List.mem_map, not_exists, not_and]
    constructor
    · rintro ⟨⟨apart, ownFirst⟩, fresh, distinct, others⟩
      refine ⟨fun y hy => ⟨fun same => ?_, fun z hz same => ?_⟩,
        ⟨fun z hz same => fresh z hz same.symm, distinct⟩, ownFirst, others⟩
      · exact apart (by rw [hy, Option.map_some, same])
      · have between : ident y = ident x := String.le_antisymm
          (above y hy x List.mem_cons_self) (same ▸ sorted.1 z hz)
        exact apart (by rw [hy, Option.map_some, between])
    · rintro ⟨apart, ⟨fresh, distinct⟩, ownFirst, others⟩
      refine ⟨⟨fun same => ?_, ownFirst⟩, fun z hz same => fresh z hz same.symm, distinct, others⟩
      obtain ⟨y, hy, same⟩ := Option.map_eq_some_iff.1 same
      exact (apart y hy).1 same

theorem firstFault_nil_sorted
    (hcheck : ∀ before x, check before x = none ↔
      before.head?.map ident ≠ some (ident x) ∧ own x)
    {xs : List β} (sorted : xs.Pairwise fun a b => ident a ≤ ident b) :
    firstFault check [] xs = none ↔ (xs.map ident).Nodup ∧ ∀ x ∈ xs, own x := by
  rw [firstFault_sorted hcheck sorted (by simp)]
  simp

end Sorted

/-! ## The checks one by one -/

theorem propFault_eq_none {domain : Domain} {before : List GroundAtom} {prop : GroundAtom} :
    propFault domain before prop = none ↔
      before.head?.map GroundAtom.ident ≠ some prop.ident ∧ prop.Admissible domain := by
  have admissible : prop.Admissible domain ↔
      prop.args.find? Symbol.isFree = none ∧ prop.predicate ∈ domain.predicates := by
    simp only [List.find?_eq_none, Bool.not_eq_true]
    exact ⟨fun ⟨grounded, known⟩ => ⟨grounded, known⟩, fun ⟨grounded, known⟩ => ⟨grounded, known⟩⟩
  rw [admissible]
  unfold propFault
  split
  · next free => simp [free]
  · next grounded =>
    split
    · next repeated => simp [repeated]
    · next fresh =>
      split
      · next known => simp [grounded, fresh, known]
      · next unknown => simp [unknown]

theorem goalFault_eq_none {props : List GroundAtom} {goal : GroundAtom} :
    goalFault props goal = none ↔ goal.ident ∈ props.map GroundAtom.ident := by
  unfold goalFault
  split
  · next listed => simp [listed]
  · next unlisted => simp [unlisted]

theorem slotFault_eq_none {props : List GroundAtom} (distinct : (props.map GroundAtom.ident).Nodup)
    {action : String} {slot : Nat} {relevant : LiftedAtom} {bound held : GroundAtom} :
    slotFault props action slot relevant bound held = none ↔
      bound.ident = held.ident ∧
        ∃ prop ∈ props, prop.ident = held.ident ∧ prop.predicate = relevant.predicate := by
  unfold slotFault
  split
  · next unlisted =>
    simp only [reduceCtorEq, false_iff, not_and]
    rintro - ⟨prop, hprop, same, -⟩
    exact find?_key_eq_none.1 unlisted (same ▸ List.mem_map_of_mem hprop)
  · next listed found =>
    obtain ⟨hlisted, same⟩ := (find?_key_eq_some distinct).1 found
    have only : (∃ prop ∈ props, prop.ident = held.ident ∧ prop.predicate = relevant.predicate) ↔
        listed.predicate = relevant.predicate := by
      constructor
      · rintro ⟨prop, hprop, hident, hpredicate⟩
        rw [← List.inj_on_of_nodup_map distinct hprop hlisted (hident.trans same.symm)]
        exact hpredicate
      · exact fun hpredicate => ⟨listed, hlisted, same, hpredicate⟩
    rw [only]
    split
    · next other => simp [other]
    · next asked =>
      split
      · next unbound => simp [unbound]
      · next bound => simp [not_not.1 asked, not_not.1 bound]

theorem slotsFault_eq_none {props : List GroundAtom} (distinct : (props.map GroundAtom.ident).Nodup)
    {action : String} {slot : Nat} {relevants : List LiftedAtom} {bounds helds : List GroundAtom}
    (sameBounds : bounds.length = relevants.length) (sameHelds : helds.length = relevants.length) :
    slotsFault props action slot relevants bounds helds = none ↔
      bounds.map GroundAtom.ident = helds.map GroundAtom.ident ∧
        ∀ (k : Nat) (held : GroundAtom) (relevant : LiftedAtom),
          helds[k]? = some held → relevants[k]? = some relevant →
            ∃ prop ∈ props, prop.ident = held.ident ∧ prop.predicate = relevant.predicate := by
  induction relevants generalizing slot bounds helds with
  | nil => simp_all [slotsFault]
  | cons relevant rest ih =>
    obtain ⟨bound, bounds, rfl⟩ := List.exists_cons_of_length_eq_add_one sameBounds
    obtain ⟨held, helds, rfl⟩ := List.exists_cons_of_length_eq_add_one sameHelds
    rw [slotsFault, orElse_eq_none, slotFault_eq_none distinct,
      ih (Nat.succ.inj sameBounds) (Nat.succ.inj sameHelds)]
    simp only [List.map_cons, List.cons.injEq]
    constructor
    · rintro ⟨⟨hbound, first⟩, hbounds, others⟩
      refine ⟨⟨hbound, hbounds⟩, fun k h r hk hr => ?_⟩
      cases k with
      | zero =>
        obtain rfl : held = h := by simpa using hk
        obtain rfl : relevant = r := by simpa using hr
        exact first
      | succ k => exact others k h r (by simpa using hk) (by simpa using hr)
    · rintro ⟨⟨hbound, hbounds⟩, all⟩
      exact ⟨⟨hbound, all 0 held relevant rfl rfl⟩, hbounds,
        fun k h r hk hr => all (k + 1) h r (by simpa using hk) (by simpa using hr)⟩

end Problem

theorem Schema.bind_eq_ok {schema : Schema} {args : List Symbol} {bound : GroundAction} :
    schema.bind args = .ok bound ↔
      args.length = schema.params.length ∧ ∃ slots,
        schema.relevant.mapM (fun atom => atom.bind (schema.params.zip args)) = .ok slots ∧
          bound = ⟨schema.name, args, slots⟩ := by
  unfold Schema.bind
  split
  · next tooMany => simp; omega
  · next fits =>
    split
    · next missing =>
      have short := (List.getElem?_eq_some_iff.1 missing).1
      simp
      omega
    · next complete =>
      have long := List.getElem?_eq_none_iff.1 complete
      rw [Memory.bind_eq_ok]
      simp only [pure_eq_ok, Except.ok.injEq, eq_comm (a := bound)]
      exact ⟨fun h => ⟨by omega, h⟩, fun h => h.2⟩

theorem Schema.bind_slots_length {schema : Schema} {args : List Symbol} {bound : GroundAction}
    (h : schema.bind args = .ok bound) : bound.slots.length = schema.relevant.length := by
  obtain ⟨-, slots, hslots, rfl⟩ := Schema.bind_eq_ok.1 h
  exact mapM_length hslots

theorem Schema.predicates_of_bind {schema : Schema} {args : List Symbol} {action : GroundAction}
    (h : schema.bind args = .ok action) :
    List.Forall₂ (fun atom held => held.predicate = atom.predicate) schema.relevant
      action.slots := by
  obtain ⟨-, slots, bound, rfl⟩ := bind_eq_ok.1 h
  refine (mapM_eq_ok.1 bound).imp fun atom held grounded => ?_
  obtain ⟨_, -, made⟩ := Memory.bind_eq_ok.1 grounded
  rw [← Except.ok.inj made]

namespace Problem

/-- The schema of an instance is the one that the lookup by name finds. -/
theorem exists_instantiates_iff {domain : Domain} {schema : Schema} {action : GroundAction}
    {props : List GroundAtom}
    (found : domain.schemas.find? (·.name == action.schema) = some schema) :
    (∃ other ∈ domain.schemas, action.Instantiates other props) ↔
      action.Instantiates schema props := by
  constructor
  · rintro ⟨other, hother, inst⟩
    have same := Domain.find?_name.2 ⟨hother, inst.name⟩
    rw [found] at same
    exact Option.some.inj same ▸ inst
  · exact fun inst => ⟨schema, (Domain.find?_name.1 found).1, inst⟩

theorem actionFault_eq_none {domain : Domain} {props : List GroundAtom}
    (distinct : (props.map GroundAtom.ident).Nodup) {before : List GroundAction}
    {action : GroundAction} :
    actionFault domain props before action = none ↔
      before.head?.map GroundAction.ident ≠ some action.ident ∧
        ∃ schema ∈ domain.schemas, action.Instantiates schema props := by
  unfold actionFault
  split
  · next repeated => simp [repeated]
  · next fresh =>
    simp only [ne_eq, fresh, not_false_eq_true, true_and]
    split
    · next unknown =>
      simp only [reduceCtorEq, false_iff, not_exists, not_and]
      intro schema hschema inst
      exact find?_key_eq_none.1 unknown (inst.name ▸ List.mem_map_of_mem hschema)
    · next schema found =>
      rw [exists_instantiates_iff found]
      split
      · next miscounted =>
        simp only [reduceCtorEq, false_iff]
        exact fun inst => miscounted inst.count
      · next counted =>
        split
        · next fault unbound =>
          simp only [reduceCtorEq, false_iff]
          intro inst
          obtain ⟨bound, hbound, -⟩ := inst.binds
          rw [unbound] at hbound
          cases hbound
        · next bound hbound =>
          have counts := not_not.1 counted
          rw [slotsFault_eq_none distinct (Schema.bind_slots_length hbound) counts]
          constructor
          · rintro ⟨hidents, hlisted⟩
            have name := (Domain.find?_name.1 found).2
            exact ⟨name, counts, ⟨bound, hbound, hidents⟩, hlisted⟩
          · rintro ⟨-, -, ⟨other, hother, hidents⟩, hlisted⟩
            obtain rfl := Except.ok.inj (hbound.symm.trans hother)
            exact ⟨hidents, hlisted⟩

theorem fault?_eq_none {domain : Domain} {actions : List GroundAction}
    {props goals : List GroundAtom}
    (actionsSorted : actions.Pairwise fun a b => a.ident ≤ b.ident)
    (propsSorted : props.Pairwise fun a b => a.ident ≤ b.ident) :
    fault? domain actions props goals = none ↔ Accepted domain actions props goals := by
  have hprops : firstFault (propFault domain) [] props = none ↔
      (props.map GroundAtom.ident).Nodup ∧ ∀ prop ∈ props, prop.Admissible domain :=
    firstFault_nil_sorted (fun _ _ => propFault_eq_none) propsSorted
  have hgoals : goals.findSome? (goalFault props) = none ↔
      ∀ goal ∈ goals, goal.ident ∈ props.map GroundAtom.ident := by
    simp only [List.findSome?_eq_none_iff, goalFault_eq_none]
  rw [fault?, orElse_eq_none, orElse_eq_none, hprops, hgoals]
  constructor
  · rintro ⟨⟨distinct, admissible⟩, listed, hactions⟩
    rw [firstFault_nil_sorted (fun _ _ => actionFault_eq_none distinct) actionsSorted] at hactions
    exact ⟨distinct, admissible, listed, hactions.1, hactions.2⟩
  · intro accepted
    refine ⟨⟨accepted.props_distinct, accepted.props_admissible⟩, accepted.goals_listed, ?_⟩
    rw [firstFault_nil_sorted (fun _ _ => actionFault_eq_none accepted.props_distinct)
      actionsSorted]
    exact ⟨accepted.actions_distinct, accepted.actions_instantiate⟩

theorem accepted (problem : Problem) :
    Accepted problem.domain problem.actions problem.props problem.goals :=
  (fault?_eq_none problem.actions_sorted problem.props_sorted).1 problem.faultless

end Problem

end SchemaNet
