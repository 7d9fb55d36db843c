import SchemaNet.Proofs.Planning.Adjacency
import SchemaNet.Proofs.Planning.Construction
import SchemaNet.Proofs.Planning.Identifiers

/-!
Other names for the objects of a problem. If the new names are as plain and as different as
the old ones, the renamed lists are accepted like the old ones, and the new problem relates
its entities in the same way; only their canonical orders may differ.
-/

namespace SchemaNet

def GroundAtom.rename (names : Symbol → Symbol) (atom : GroundAtom) : GroundAtom :=
  { atom with args := atom.args.map names }

/-- Renames the arguments and the propositions in the slots. -/
def GroundAction.rename (names : Symbol → Symbol) (action : GroundAction) : GroundAction :=
  { action with args := action.args.map names, slots := action.slots.map (.rename names) }

def GroundAction.objects (action : GroundAction) : List Symbol :=
  action.args ++ action.slots.flatMap GroundAtom.args

def objectsOf (actions : List GroundAction) (props goals : List GroundAtom) : List Symbol :=
  actions.flatMap GroundAction.objects ++ props.flatMap GroundAtom.args
    ++ goals.flatMap GroundAtom.args

/-- The names in the slots of the schemas that are no parameters. -/
def Domain.constants (domain : Domain) : List Symbol :=
  domain.schemas.flatMap fun schema =>
    schema.relevant.flatMap fun atom => atom.params.filter (! ·.isFree)

/-- No name of a predicate, a schema or an object contains a space. -/
structure PlainNames (domain : Domain) (actions : List GroundAction)
    (props goals : List GroundAtom) : Prop where
  predicates : ∀ predicate ∈ domain.predicates, predicate.Plain
  constants : ∀ constant ∈ domain.constants, constant.Plain
  actions : ∀ action ∈ actions, action.Plain
  props : ∀ prop ∈ props, prop.Plain
  goals : ∀ goal ∈ goals, goal.Plain

/-- New names for some objects: different ones for different objects, the old ones for the
constants, and none that contains a space or is free. -/
structure Renames (names : Symbol → Symbol) (domain : Domain) (objects : List Symbol) : Prop where
  injective : ∀ x ∈ objects ++ domain.constants, ∀ y ∈ objects ++ domain.constants,
    names x = names y → x = y
  fixes : ∀ constant ∈ domain.constants, names constant = constant
  plain : ∀ object ∈ objects, (names object).Plain
  grounded : ∀ object ∈ objects, (names object).isFree = false

theorem map_inj_on {β γ : Type} {f : β → γ} {xs ys : List β}
    (inj : ∀ x ∈ xs, ∀ y ∈ ys, f x = f y → x = y) (h : xs.map f = ys.map f) : xs = ys := by
  induction xs generalizing ys with
  | nil => exact (List.map_eq_nil_iff.1 h.symm).symm
  | cons x rest ih =>
    cases ys with
    | nil => cases h
    | cons y ys =>
      obtain ⟨same, others⟩ := List.cons.inj h
      have rest_inj : ∀ a ∈ rest, ∀ b ∈ ys, f a = f b → a = b := fun a ha b hb =>
        inj a (List.mem_cons_of_mem _ ha) b (List.mem_cons_of_mem _ hb)
      rw [inj x List.mem_cons_self y List.mem_cons_self same, ih rest_inj others]

/-! ## Binding -/

theorem lookup_zip_map {names : Symbol → Symbol} (params args : List Symbol) (param : Symbol) :
    Substitution.find? (params.zip (args.map names)) param =
      (Substitution.find? (params.zip args) param).map names := by
  have lookup : ∀ pairs : Substitution,
      (pairs.map (Prod.map id names)).lookup param = (pairs.lookup param).map names := by
    intro pairs
    induction pairs with
    | nil => rfl
    | cons pair rest ih =>
      rw [List.map_cons, List.lookup_cons, List.lookup_cons, ih]
      show (match param == pair.1 with | true => _ | false => _) = _
      cases param == pair.1 <;> rfl
  rw [Substitution.find?, Substitution.find?, List.zip_map_right, ← List.map_reverse, lookup]

theorem mem_of_find? {params args : List Symbol} {param object : Symbol}
    (h : Substitution.find? (params.zip args) param = some object) : object ∈ args := by
  obtain ⟨before, after, same, -⟩ := List.lookup_eq_some_iff.1 h
  have mem : (param, object) ∈ (params.zip args).reverse := by
    rw [same]
    exact List.mem_append_right _ List.mem_cons_self
  exact (List.of_mem_zip (List.mem_reverse.1 mem)).2

namespace LiftedAtom

variable {atom : LiftedAtom} {params args : List Symbol} {bound : GroundAtom}

/-- The arguments of a bound proposition are those of the action or constants. -/
theorem args_of_bind (h : atom.bind (params.zip args) = .ok bound) :
    bound.predicate = atom.predicate ∧
      ∀ arg ∈ bound.args, arg ∈ args ∨ arg ∈ atom.params.filter (! ·.isFree) := by
  obtain ⟨own, hown, h⟩ := Memory.bind_eq_ok.1 h
  obtain rfl := Except.ok.inj h
  refine ⟨rfl, fun arg harg => ?_⟩
  obtain ⟨param, hparam, h⟩ := forall₂_mem_right (mapM_eq_ok.1 hown) harg
  unfold bindParam at h
  split at h
  · split at h
    · next found =>
      obtain rfl := Except.ok.inj h
      exact .inl (mem_of_find? found)
    · cases h
  · next constant =>
    obtain rfl := Except.ok.inj h
    exact .inr (List.mem_filter.2 ⟨hparam, by simpa using constant⟩)

theorem bind_rename {names : Symbol → Symbol}
    (fixes : ∀ constant ∈ atom.params.filter (! ·.isFree), names constant = constant)
    (h : atom.bind (params.zip args) = .ok bound) :
    atom.bind (params.zip (args.map names)) = .ok (bound.rename names) := by
  obtain ⟨own, hown, h⟩ := Memory.bind_eq_ok.1 h
  obtain rfl := Except.ok.inj h
  refine Memory.bind_eq_ok.2 ⟨own.map names, ?_, rfl⟩
  rw [mapM_eq_ok, List.forall₂_map_right_iff]
  refine forall₂_imp_mem (mapM_eq_ok.1 hown) fun param hparam object h => ?_
  unfold bindParam at h ⊢
  split at h
  · next free =>
    rw [if_pos free, lookup_zip_map]
    split at h
    · next found =>
      obtain rfl := Except.ok.inj h
      rw [found]
      rfl
    · cases h
  · next constant =>
    obtain rfl := Except.ok.inj h
    rw [if_neg constant, fixes param (List.mem_filter.2 ⟨hparam, by simpa using constant⟩)]

end LiftedAtom

theorem Domain.mem_constants {domain : Domain} {schema : Schema} (h : schema ∈ domain.schemas)
    {atom : LiftedAtom} (hatom : atom ∈ schema.relevant) {constant : Symbol}
    (hconstant : constant ∈ atom.params.filter (! ·.isFree)) : constant ∈ domain.constants :=
  List.mem_flatMap.2 ⟨schema, h, List.mem_flatMap.2 ⟨atom, hatom, hconstant⟩⟩

theorem Schema.bind_rename {domain : Domain} {schema : Schema} (h : schema ∈ domain.schemas)
    {names : Symbol → Symbol} (fixes : ∀ constant ∈ domain.constants, names constant = constant)
    {args : List Symbol} {bound : GroundAction} (hbound : schema.bind args = .ok bound) :
    schema.bind (args.map names) = .ok (bound.rename names) := by
  obtain ⟨count, slots, hslots, rfl⟩ := Schema.bind_eq_ok.1 hbound
  refine Schema.bind_eq_ok.2 ⟨by rw [List.length_map, count], slots.map (.rename names), ?_, rfl⟩
  rw [mapM_eq_ok, List.forall₂_map_right_iff]
  exact forall₂_imp_mem (mapM_eq_ok.1 hslots) fun atom hatom slot =>
    LiftedAtom.bind_rename fun constant hconstant =>
      fixes constant (Domain.mem_constants h hatom hconstant)

/-- An instance with plain names is what its schema binds its arguments to. -/
theorem GroundAction.Instantiates.bind_eq {domain : Domain} {schema : Schema}
    (h : schema ∈ domain.schemas) (predicates : ∀ predicate ∈ domain.predicates, predicate.Plain)
    (constants : ∀ constant ∈ domain.constants, constant.Plain) {action : GroundAction}
    (plain : action.Plain) {props : List GroundAtom} (inst : action.Instantiates schema props) :
    schema.bind action.args = .ok action := by
  obtain ⟨bound, hbound, same⟩ := inst.binds
  obtain ⟨count, slots, hslots, rfl⟩ := Schema.bind_eq_ok.1 hbound
  have plainSlots : ∀ slot ∈ slots, slot.Plain := by
    intro slot hslot
    obtain ⟨atom, hatom, hbind⟩ := forall₂_mem_right (mapM_eq_ok.1 hslots) hslot
    obtain ⟨predicate, args⟩ := LiftedAtom.args_of_bind hbind
    refine ⟨predicate ▸ predicates _ (Domain.relevant_listed h hatom), fun arg harg => ?_⟩
    rcases args arg harg with own | constant
    · exact plain.args arg own
    · exact constants arg (Domain.mem_constants h hatom constant)
  have slots_eq : slots = action.slots := map_inj_on
    (fun slot hslot held hheld => (plainSlots slot hslot).eq_of_ident (plain.slots held hheld)) same
  rw [hbound, slots_eq, inst.name]

/-! ## Acceptance -/

section Acceptance

variable {domain : Domain} {actions : List GroundAction} {props goals : List GroundAtom}
  {names : Symbol → Symbol}

theorem mem_objectsOf_action {action : GroundAction} (h : action ∈ actions) {object : Symbol}
    (hobject : object ∈ action.objects) : object ∈ objectsOf actions props goals :=
  List.mem_append_left _ (List.mem_append_left _ (List.mem_flatMap.2 ⟨action, h, hobject⟩))

theorem mem_objectsOf_prop {prop : GroundAtom} (h : prop ∈ props) {object : Symbol}
    (hobject : object ∈ prop.args) : object ∈ objectsOf actions props goals :=
  List.mem_append_left _ (List.mem_append_right _ (List.mem_flatMap.2 ⟨prop, h, hobject⟩))

theorem mem_objectsOf_goal {goal : GroundAtom} (h : goal ∈ goals) {object : Symbol}
    (hobject : object ∈ goal.args) : object ∈ objectsOf actions props goals :=
  List.mem_append_right _ (List.mem_flatMap.2 ⟨goal, h, hobject⟩)

/-- A plain proposition about some objects. -/
structure GroundAtom.Over (atom : GroundAtom) (objects : List Symbol) : Prop where
  plain : atom.Plain
  objects : ∀ arg ∈ atom.args, arg ∈ objects

namespace Renames

variable {objects : List Symbol} (h : Renames names domain objects)

include h

theorem args_inj {args others : List Symbol} (own : ∀ arg ∈ args, arg ∈ objects)
    (theirs : ∀ arg ∈ others, arg ∈ objects) (same : args.map names = others.map names) :
    args = others :=
  map_inj_on (fun x hx y hy => h.injective x (List.mem_append_left _ (own x hx)) y
    (List.mem_append_left _ (theirs y hy))) same

theorem plain_args {args : List Symbol} (own : ∀ arg ∈ args, arg ∈ objects) :
    ∀ arg ∈ args.map names, arg.Plain :=
  List.forall_mem_map.2 fun arg harg => h.plain arg (own arg harg)

theorem plain_atom {atom : GroundAtom} (own : atom.Over objects) : (atom.rename names).Plain :=
  ⟨own.plain.predicate, h.plain_args own.objects⟩

/-- Renamed propositions are equal if they were before. -/
theorem ident_inj {atom other : GroundAtom} (own : atom.Over objects) (theirs : other.Over objects)
    (same : (atom.rename names).ident = (other.rename names).ident) : atom = other := by
  have renamed := (h.plain_atom own).eq_of_ident (h.plain_atom theirs) same
  obtain ⟨predicate, args⟩ := GroundAtom.mk.inj renamed
  have args_eq := h.args_inj own.objects theirs.objects args
  cases atom
  cases other
  exact congrArg₂ _ predicate args_eq

theorem ident_iff {atom other : GroundAtom} (own : atom.Over objects)
    (theirs : other.Over objects) :
    (atom.rename names).ident = (other.rename names).ident ↔ atom.ident = other.ident :=
  ⟨fun same => congrArg _ (h.ident_inj own theirs same), fun same =>
    congrArg _ (congrArg _ (own.plain.eq_of_ident theirs.plain same))⟩

theorem plain_action {action : GroundAction} (plain : action.Plain)
    (own : ∀ object ∈ action.objects, object ∈ objects) : (action.rename names).Plain where
  schema := plain.schema
  args := h.plain_args fun arg harg => own arg (List.mem_append_left _ harg)
  slots := List.forall_mem_map.2 fun held hheld => h.plain_atom
    ⟨plain.slots held hheld, fun arg harg =>
      own arg (List.mem_append_right _ (List.mem_flatMap.2 ⟨held, hheld, harg⟩))⟩

end Renames

variable (plain : PlainNames domain actions props goals)
  (renames : Renames names domain (objectsOf actions props goals))

include plain in
theorem PlainNames.prop_over {prop : GroundAtom} (h : prop ∈ props) :
    prop.Over (objectsOf actions props goals) :=
  ⟨plain.props prop h, fun _ => mem_objectsOf_prop h⟩

include plain in
theorem PlainNames.goal_over {goal : GroundAtom} (h : goal ∈ goals) :
    goal.Over (objectsOf actions props goals) :=
  ⟨plain.goals goal h, fun _ => mem_objectsOf_goal h⟩

include plain in
theorem PlainNames.held_over {action : GroundAction} (h : action ∈ actions) {held : GroundAtom}
    (hheld : held ∈ action.slots) : held.Over (objectsOf actions props goals) :=
  ⟨(plain.actions action h).slots held hheld, fun _ harg => mem_objectsOf_action h
    (List.mem_append_right _ (List.mem_flatMap.2 ⟨held, hheld, harg⟩))⟩

include plain renames in
theorem GroundAction.Instantiates.rename {schema : Schema} (hschema : schema ∈ domain.schemas)
    {action : GroundAction} (haction : action ∈ actions) (inst : action.Instantiates schema props) :
    (action.rename names).Instantiates schema (props.map (.rename names)) where
  name := inst.name
  count := (List.length_map _).trans inst.count
  binds := ⟨_, Schema.bind_rename hschema renames.fixes
    (inst.bind_eq hschema plain.predicates plain.constants (plain.actions action haction)), rfl⟩
  listed k held relevant hk hr := by
    rw [GroundAction.rename, List.getElem?_map, Option.map_eq_some_iff] at hk
    obtain ⟨own, hown, rfl⟩ := hk
    obtain ⟨prop, hprop, same, asked⟩ := inst.listed k own relevant hown hr
    have equal : prop = own := (plain.props prop hprop).eq_of_ident
      (plain.held_over haction (List.mem_of_getElem? hown)).plain same
    exact ⟨prop.rename names, List.mem_map_of_mem hprop, by rw [equal], asked⟩

include plain renames in
theorem Renames.action_inj (distinct : (actions.map GroundAction.ident).Nodup)
    {action other : GroundAction} (haction : action ∈ actions) (hother : other ∈ actions)
    (same : (action.rename names).ident = (other.rename names).ident) : action = other := by
  have own : ∀ {action}, action ∈ actions →
      ∀ object ∈ action.objects, object ∈ objectsOf actions props goals :=
    fun h _ => mem_objectsOf_action h
  obtain ⟨schema, args⟩ :=
    (renames.plain_action (plain.actions action haction) (own haction)).names_of_ident
      (renames.plain_action (plain.actions other hother) (own hother)) same
  have args_eq := renames.args_inj (fun arg harg => own haction arg (List.mem_append_left _ harg))
    (fun arg harg => own hother arg (List.mem_append_left _ harg)) args
  refine List.inj_on_of_nodup_map distinct haction hother ?_
  exact congrArg₂ identOf schema args_eq

include plain renames in
theorem Problem.Accepted.rename (accepted : Accepted domain actions props goals) :
    Accepted domain (actions.map (.rename names)) (props.map (.rename names))
      (goals.map (.rename names)) where
  props_distinct := by
    rw [List.map_map]
    exact (accepted.props_distinct.of_map).map_on fun prop hprop other hother =>
      renames.ident_inj (plain.prop_over hprop) (plain.prop_over hother)
  props_admissible := List.forall_mem_map.2 fun prop hprop =>
    ⟨List.forall_mem_map.2 fun arg harg => renames.grounded arg (mem_objectsOf_prop hprop harg),
      (accepted.props_admissible prop hprop).known⟩
  goals_listed := List.forall_mem_map.2 fun goal hgoal => by
    obtain ⟨prop, hprop, same⟩ := List.mem_map.1 (accepted.goals_listed goal hgoal)
    rw [← (plain.props prop hprop).eq_of_ident (plain.goals goal hgoal) same]
    exact List.mem_map_of_mem (List.mem_map_of_mem hprop)
  actions_distinct := by
    rw [List.map_map]
    exact (accepted.actions_distinct.of_map).map_on fun action haction other hother =>
      renames.action_inj plain accepted.actions_distinct haction hother
  actions_instantiate := List.forall_mem_map.2 fun action haction => by
    obtain ⟨schema, hschema, inst⟩ := accepted.actions_instantiate action haction
    exact ⟨schema, hschema, inst.rename plain renames hschema haction⟩

end Acceptance

/-! ## The relation of the entities -/

theorem GroundAction.fills_rename {names : Symbol → Symbol} {action : GroundAction}
    {prop : GroundAtom}
    (same : ∀ held ∈ action.slots,
      (held.rename names).ident = (prop.rename names).ident ↔ held.ident = prop.ident)
    (schema : Symbol) (k : Nat) :
    (action.rename names).fills schema k (prop.rename names) = action.fills schema k prop := by
  rw [GroundAction.fills, GroundAction.fills, GroundAction.rename, List.getElem?_map]
  congr 1
  cases hheld : action.slots[k]? with
  | none => rfl
  | some held =>
    rw [Option.map_some, Option.any_some, Option.any_some, Bool.eq_iff_iff, beq_iff_eq, beq_iff_eq,
      same held (List.mem_of_getElem? hheld)]

namespace Problem

/-- A problem that relates its entities as another one does, under other names. -/
structure RenamedTo (problem renamed : Problem) (names : Symbol → Symbol) : Prop where
  domain_eq : renamed.domain = problem.domain
  actions : renamed.actions.Perm (problem.actions.map (.rename names))
  props : renamed.props.Perm (problem.props.map (.rename names))
  held : ∀ action ∈ problem.actions,
    renamed.heldBy (action.rename names) = (problem.heldBy action).map (.rename names)
  fills : ∀ action ∈ problem.actions, ∀ prop ∈ problem.props, ∀ schema k,
    (action.rename names).fills schema k (prop.rename names) = action.fills schema k prop
  goals : ∀ prop ∈ problem.props, (prop.rename names).ident ∈ renamed.goals.map GroundAtom.ident ↔
    prop.ident ∈ problem.goals.map GroundAtom.ident

/-- With plain names the slots of an action hold listed propositions themselves. -/
theorem heldBy_eq_slots {problem : Problem} (plain : ∀ prop ∈ problem.props, prop.Plain)
    {action : GroundAction} (mem : action ∈ problem.actions) (own : action.Plain) :
    problem.heldBy action = action.slots := by
  obtain ⟨schema, -, inst⟩ := exists_schema mem
  rw [← List.forall₂_eq_eq_eq]
  refine (forall₂_imp_mem (heldBy_beside inst) fun held hheld prop hprop => ?_).flip
  obtain ⟨listed, same⟩ := listed?_eq_some.1 hprop
  exact (plain prop listed).eq_of_ident (own.slots held hheld) same

theorem Lists.renamedTo {problem renamed : Problem} {domain : Domain} {actions : List GroundAction}
    {props goals : List GroundAtom} {names : Symbol → Symbol}
    (plain : PlainNames domain actions props goals)
    (renames : Renames names domain (objectsOf actions props goals))
    (lists : problem.Lists domain actions props goals)
    (lists' : renamed.Lists domain (actions.map (.rename names)) (props.map (.rename names))
      (goals.map (.rename names))) : problem.RenamedTo renamed names where
  domain_eq := lists'.domain_eq.trans lists.domain_eq.symm
  actions := lists'.actions.trans (lists.actions.symm.map _)
  props := lists'.props.trans (lists.props.symm.map _)
  held action haction := by
    have listed := lists.actions.mem_iff.1 haction
    have own : ∀ prop ∈ problem.props, prop.Plain :=
      fun prop hprop => plain.props prop (lists.props.mem_iff.1 hprop)
    have new : ∀ prop ∈ renamed.props, prop.Plain := by
      intro prop hprop
      obtain ⟨old, hold, rfl⟩ := List.mem_map.1 (lists'.props.mem_iff.1 hprop)
      exact renames.plain_atom (plain.prop_over hold)
    have action_plain := renames.plain_action (plain.actions action listed)
      fun _ => mem_objectsOf_action listed
    rw [heldBy_eq_slots own haction (plain.actions action listed),
      heldBy_eq_slots new (lists'.actions.mem_iff.2 (List.mem_map_of_mem listed)) action_plain]
    rfl
  fills action haction prop hprop :=
    GroundAction.fills_rename fun _ hheld => renames.ident_iff
      (plain.held_over (lists.actions.mem_iff.1 haction) hheld)
      (plain.prop_over (lists.props.mem_iff.1 hprop))
  goals prop hprop := by
    have about := plain.prop_over (lists.props.mem_iff.1 hprop)
    rw [lists'.goals, lists.goals, List.map_map, List.mem_map, List.mem_map]
    constructor
    · rintro ⟨goal, hgoal, same⟩
      exact ⟨goal, hgoal, (renames.ident_iff (plain.goal_over hgoal) about).1 same⟩
    · rintro ⟨goal, hgoal, same⟩
      exact ⟨goal, hgoal, (renames.ident_iff (plain.goal_over hgoal) about).2 same⟩

end Problem

end SchemaNet
