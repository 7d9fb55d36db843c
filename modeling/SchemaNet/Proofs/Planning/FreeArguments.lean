import SchemaNet.Proofs.Planning.Construction
import SchemaNet.Proofs.Planning.Identifiers
import SchemaNet.Proofs.Planning.WellFormed

/-!
Free variables among the arguments of a problem. Its propositions have none. The arguments of an
action are only seen through the slots that take them, and a slot is compared by identifier: an
argument that no slot takes may be any name, and one that a slot takes can only be free if the
proposition in the slot has a name with the same mark behind a space.
-/

namespace SchemaNet

/-- The mark of a free parameter stands behind a space inside the name. -/
def Symbol.HidesMark (name : Symbol) : Prop := [' ', freeMark] <:+: name.toList

/-! ## Marks in identifiers -/

theorem Symbol.exists_of_isFree {name : Symbol} (free : name.isFree) :
    ∃ rest, name.toList = freeMark :: rest := by
  cases letters : name.toList with
  | nil => simp [isFree, letters] at free
  | cons c rest =>
    obtain rfl : c = freeMark := by simpa [isFree, letters] using free
    exact ⟨rest, rfl⟩

/-- Two letters that follow each other stand in one of two parts, or end the first and begin
the second. -/
theorem pair_infix_append {β : Type} {a b : β} {xs ys : List β} (h : [a, b] <:+: xs ++ ys) :
    [a, b] <:+: xs ∨ [a, b] <:+: ys ∨ ys.head? = some b := by
  induction xs with
  | nil => exact .inr (.inl h)
  | cons x xs ih =>
    rw [List.cons_append, List.infix_cons_iff] at h
    rcases h with start | later
    · obtain ⟨rfl, next⟩ := List.cons_prefix_cons.1 start
      cases xs with
      | nil =>
        obtain ⟨rest, rfl⟩ := next
        exact .inr (.inr rfl)
      | cons y xs =>
        obtain ⟨rfl, -⟩ := List.cons_prefix_cons.1 next
        exact .inl ⟨[], xs, rfl⟩
    · exact (ih later).imp_left fun own => List.infix_cons own

theorem mark_infix_spaced {names : List Symbol} {name : Symbol} (mem : name ∈ names)
    (free : name.isFree) : [' ', freeMark] <:+: spaced names := by
  obtain ⟨before, after, rfl⟩ := List.append_of_mem mem
  obtain ⟨rest, letters⟩ := Symbol.exists_of_isFree free
  exact ⟨spaced before, rest ++ spaced after, by simp [spaced, letters]⟩

/-- A space before a mark begins a free name or stands inside a name. -/
theorem exists_of_mark_infix_spaced {names : List Symbol}
    (h : [' ', freeMark] <:+: spaced names) :
    ∃ name ∈ names, name.isFree ∨ name.HidesMark := by
  induction names with
  | nil => simp [spaced] at h
  | cons name names ih =>
    have parts : spaced (name :: names) = ' ' :: name.toList ++ spaced names := rfl
    rw [parts] at h
    rcases pair_infix_append h with own | later | start
    · refine ⟨name, List.mem_cons_self, ?_⟩
      rcases List.infix_cons_iff.1 own with begins | inside
      · obtain ⟨-, rest, same⟩ := List.cons_prefix_cons.1 begins
        exact .inl (by simp [Symbol.isFree, ← same])
      · exact .inr inside
    · obtain ⟨other, mem, marked⟩ := ih later
      exact ⟨other, List.mem_cons_of_mem _ mem, marked⟩
    · exact absurd (head?_spaced names freeMark start) (by decide)

/-! ## Arguments that a slot takes -/

/-- The lifted proposition has the parameter of this place, and no later place has the same
one. -/
def LiftedAtom.Takes (atom : LiftedAtom) (params : List Symbol) (k : Nat) : Prop :=
  ∃ param ∈ atom.params, param.isFree ∧ params[k]? = some param ∧
    ∀ j, k < j → params[j]? ≠ some param

namespace LiftedAtom.BindsTo

variable {atom : LiftedAtom} {params args args' : List Symbol} {bound : GroundAtom}

theorem mem_args (binds : atom.BindsTo params args bound) {k : Nat} {arg : Symbol}
    (taken : atom.Takes params k) (place : args[k]? = some arg) : arg ∈ bound.args := by
  obtain ⟨param, mem, free, own, last⟩ := taken
  obtain ⟨object, hobject, assigned⟩ := forall₂_mem_left binds.args mem
  rw [if_pos free] at assigned
  obtain ⟨j, own', place', last'⟩ := assigned
  obtain rfl : j = k := Nat.le_antisymm
    (Nat.le_of_not_lt fun after => last j after own')
    (Nat.le_of_not_lt fun after => last' k after own)
  exact Option.some.inj (place'.symm.trans place) ▸ hobject

/-- A binding depends on the arguments that are taken. -/
theorem congr (binds : atom.BindsTo params args bound)
    (same : ∀ k, atom.Takes params k → args'[k]? = args[k]?) :
    atom.BindsTo params args' bound := by
  refine ⟨binds.predicate, forall₂_imp_mem binds.args fun param mem object assigned => ?_⟩
  by_cases free : param.isFree
  · rw [if_pos free] at assigned ⊢
    obtain ⟨k, own, place, last⟩ := assigned
    exact ⟨k, own, (same k ⟨param, mem, free, own, last⟩).trans place, last⟩
  · rw [if_neg free] at assigned ⊢
    exact assigned

end LiftedAtom.BindsTo

namespace GroundAction

/-- The action with another argument in one place. -/
def withArg (action : GroundAction) (k : Nat) (arg : Symbol) : GroundAction :=
  { action with args := action.args.set k arg }

variable {action : GroundAction} {schema : Schema} {props : List GroundAtom}

theorem Fits.withArg (fits : action.Fits schema props) {k : Nat}
    (untaken : ∀ atom ∈ schema.relevant, ¬atom.Takes schema.params k) (arg : Symbol) :
    (action.withArg k arg).Fits schema props where
  arity := List.length_set.trans fits.arity
  closed := fits.closed
  count := fits.count
  filled slot held atom hheld hatom := by
    obtain ⟨bound, binds, rest⟩ := fits.filled slot held atom hheld hatom
    refine ⟨bound, binds.congr fun j taken => ?_, rest⟩
    have apart : k ≠ j := fun same => untaken atom (List.mem_of_getElem? hatom) (same ▸ taken)
    exact List.getElem?_set_ne apart

/-- A listed proposition is ground, so a free argument that reaches it stands inside one of its
names. -/
theorem Fits.hidesMark (fits : action.Fits schema props)
    (ground : ∀ prop ∈ props, ∀ arg ∈ prop.args, arg.isFree = false) {k slot : Nat}
    {arg : Symbol} (place : action.args[k]? = some arg) (free : arg.isFree) {atom : LiftedAtom}
    (hatom : schema.relevant[slot]? = some atom) (taken : atom.Takes schema.params k) :
    ∃ prop ∈ props, (action.slots[slot]?).map GroundAtom.ident = some prop.ident ∧
      ∃ name ∈ prop.args, name.HidesMark := by
  have inside : slot < action.slots.length := by
    rw [fits.count]
    exact (List.getElem?_eq_some_iff.1 hatom).1
  have hheld := List.getElem?_eq_getElem inside
  obtain ⟨bound, binds, same, prop, hprop, equal, asked⟩ := fits.filled slot _ atom hheld hatom
  have predicate : prop.predicate = bound.predicate := asked.trans binds.predicate.symm
  have letters : spaced prop.args = spaced bound.args := by
    have whole := congrArg String.toList equal
    rw [GroundAtom.ident, GroundAtom.ident, identOf_toList, identOf_toList, predicate] at whole
    exact List.append_cancel_left whole
  have mark : [' ', freeMark] <:+: spaced prop.args := by
    rw [letters]
    exact mark_infix_spaced (binds.mem_args taken place) free
  refine ⟨prop, hprop, by rw [hheld, Option.map_some, same, equal], ?_⟩
  obtain ⟨name, mem, marked⟩ := exists_of_mark_infix_spaced mark
  have bare : ¬name.isFree := by simp [ground prop hprop name mem]
  exact ⟨name, mem, marked.resolve_left bare⟩

end GroundAction

namespace Problem

variable {domain : Domain} {actions : List GroundAction} {props goals : List GroundAtom}

/-- Nothing is asked of an argument that no slot takes. -/
theorem WellFormed.withArg (well : WellFormed domain actions props goals) {i k : Nat}
    {action : GroundAction} (place : actions[i]? = some action) {schema : Schema}
    (known : schema ∈ domain.schemas) (name : schema.name = action.schema)
    (untaken : ∀ atom ∈ schema.relevant, ¬atom.Takes schema.params k) {arg : Symbol}
    (fresh : (action.withArg k arg).ident ∉ actions.map GroundAction.ident) :
    WellFormed domain (actions.set i (action.withArg k arg)) props goals :=
  { well with
    actions_distinct := by
      rw [List.map_set]
      exact well.actions_distinct.set fresh
    actions_fit := fun other mem => by
      rcases List.mem_or_eq_of_mem_set mem with kept | rfl
      · exact well.actions_fit other kept
      · obtain ⟨own, hown, same, fits⟩ := well.actions_fit action (List.mem_of_getElem? place)
        have found : domain.schemas.find? (·.name == action.schema) = some own :=
          Domain.find?_name.2 ⟨hown, same⟩
        obtain rfl := Option.some.inj (found.symm.trans (Domain.find?_name.2 ⟨known, name⟩))
        exact ⟨own, known, name, fits.withArg untaken arg⟩ }

/-- No argument of a proposition is free. An argument of an action is not free either if a slot
takes it, unless a name of the proposition there hides a mark; one that no slot takes is not
looked at, and any other one would do. -/
theorem free_arguments_unread (problem : Problem) :
    (∀ prop ∈ problem.props, ∀ arg ∈ prop.args, arg.isFree = false) ∧
    ∀ (i k : Nat) (action : GroundAction) (arg : Symbol),
      problem.actions[i]? = some action → action.args[k]? = some arg →
        ∃ schema ∈ problem.domain.schemas, schema.name = action.schema ∧
          (∀ (slot : Nat) (atom : LiftedAtom), schema.relevant[slot]? = some atom →
            atom.Takes schema.params k → arg.isFree = false ∨
              ∃ prop ∈ problem.props, (action.slots[slot]?).map GroundAtom.ident = some prop.ident ∧
                ∃ name ∈ prop.args, name.HidesMark) ∧
          ((∀ atom ∈ schema.relevant, ¬atom.Takes schema.params k) → ∀ other,
            (action.withArg k other).ident ∉ problem.actions.map GroundAction.ident →
              ∃ changed, build problem.name problem.domain
                (problem.actions.set i (action.withArg k other)) problem.props problem.goals =
                  .ok changed) := by
  have well := accepted_iff_wellFormed.1 problem.accepted
  refine ⟨well.props_ground, fun i k action arg place own => ?_⟩
  obtain ⟨schema, known, name, fits⟩ := well.actions_fit action (List.mem_of_getElem? place)
  refine ⟨schema, known, name, fun slot atom hatom taken => ?_, fun untaken other fresh => ?_⟩
  · cases free : arg.isFree with
    | false => exact .inl rfl
    | true => exact .inr (fits.hidesMark well.props_ground own free hatom taken)
  · exact exists_build_iff.2
      (accepted_iff_wellFormed.2 (well.withArg place known name untaken fresh))

end Problem

namespace EveningBells

def domain : Domain :=
  ⟨"evening", [⟨"go", ["?x", "?y"], [⟨"at", ["?x", "?y"]⟩]⟩,
    ⟨"ring", ["?who"], [⟨"at", ["depot"]⟩]⟩], ["at"], by decide⟩

def actions : List GroundAction :=
  [⟨"go", ["a", "?b"], [⟨"at", ["a ?b"]⟩]⟩, ⟨"ring", ["?who"], [⟨"at", ["depot"]⟩]⟩]

def props : List GroundAtom := [⟨"at", ["a ?b"]⟩, ⟨"at", ["depot"]⟩]

def goals : List GroundAtom := []

/-- The second argument of the first action reaches a proposition, inside a name with a space.
Nothing takes the argument of the other action. -/
def problem : Problem where
  name := "bells"
  domain := domain
  actions := actions
  props := props
  goals := goals
  index := Problem.Index.ofEntities domain actions props goals
  actions_sorted := by decide
  props_sorted := by decide
  goals_sorted := by decide
  faultless := by decide
  index_eq := rfl

theorem second_place_taken : LiftedAtom.Takes ⟨"at", ["?x", "?y"]⟩ ["?x", "?y"] 1 :=
  ⟨"?y", by decide, by decide, rfl, fun j after => by
    have outside : (["?x", "?y"] : List Symbol)[j]? = none := List.getElem?_eq_none after
    simp [outside]⟩

theorem ringer_untaken : ∀ k, ¬LiftedAtom.Takes ⟨"at", ["depot"]⟩ ["?who"] k := by
  rintro k ⟨param, mem, free, -⟩
  obtain rfl := List.mem_singleton.1 mem
  exact absurd free (by decide)

theorem anyone_rings :
    (∀ prop ∈ problem.props, ∀ arg ∈ prop.args, arg.isFree = false) ∧
    (problem.actions[0]? = some ⟨"go", ["a", "?b"], [⟨"at", ["a ?b"]⟩]⟩ ∧
      Symbol.isFree "?b" ∧ ∃ prop ∈ problem.props, some "at a ?b" = some prop.ident ∧
        ∃ name ∈ prop.args, name.HidesMark) ∧
    problem.actions[1]? = some ⟨"ring", ["?who"], [⟨"at", ["depot"]⟩]⟩ ∧
      ∃ changed, Problem.build "bells" domain
        [⟨"go", ["a", "?b"], [⟨"at", ["a ?b"]⟩]⟩, ⟨"ring", ["?else"], [⟨"at", ["depot"]⟩]⟩] props [] =
          .ok changed := by
  obtain ⟨ground, read⟩ := Problem.free_arguments_unread problem
  obtain ⟨go, hgo, named, taken, -⟩ := read 0 1 _ "?b" rfl rfl
  obtain ⟨ring, hring, named', -, untaken⟩ := read 1 0 _ "?who" rfl rfl
  have first : go = ⟨"go", ["?x", "?y"], [⟨"at", ["?x", "?y"]⟩]⟩ :=
    List.inj_on_of_nodup_map domain.names_nodup hgo (by decide) named
  have second : ring = ⟨"ring", ["?who"], [⟨"at", ["depot"]⟩]⟩ :=
    List.inj_on_of_nodup_map domain.names_nodup hring (by decide) named'
  subst first second
  have hidden := (taken 0 _ rfl second_place_taken).resolve_left (by decide)
  refine ⟨ground, ⟨rfl, by decide, hidden⟩, rfl,
    untaken (fun atom mem => ?_) "?else" (by decide)⟩
  obtain rfl := List.mem_singleton.1 mem
  exact ringer_untaken 0

/-- Whoever rings the bell stays free, without a space in any name. -/
theorem ringer_stays_free :
    ∃ problem, Problem.build "bells" domain
        [⟨"ring", ["?who"], [⟨"at", ["depot"]⟩]⟩] [⟨"at", ["depot"]⟩] [] = .ok problem ∧
      (∀ predicate ∈ domain.predicates, predicate.Plain) ∧
      (∀ schema ∈ domain.schemas, schema.name.Plain) ∧
      (∀ action ∈ problem.actions, action.Plain) ∧ (∀ prop ∈ problem.props, prop.Plain) ∧
      ∃ action ∈ problem.actions, ∃ arg ∈ action.args, arg.isFree := by
  have accepted : Problem.Accepted domain [⟨"ring", ["?who"], [⟨"at", ["depot"]⟩]⟩]
      [⟨"at", ["depot"]⟩] [] :=
    (Problem.fault?_eq_none (by decide) (by decide)).1 (by decide)
  obtain ⟨problem, built⟩ := Problem.exists_build_iff.2 accepted
  have lists := Problem.build_lists built
  refine ⟨problem, built, by decide, by decide, fun action mem => ?_, fun prop mem => ?_, ?_⟩
  · obtain rfl := List.mem_singleton.1 (lists.actions.mem_iff.1 mem)
    decide
  · obtain rfl := List.mem_singleton.1 (lists.props.mem_iff.1 mem)
    decide
  · exact ⟨_, lists.actions.mem_iff.2 (List.mem_singleton_self _), "?who", by decide, by decide⟩

end EveningBells

end SchemaNet
