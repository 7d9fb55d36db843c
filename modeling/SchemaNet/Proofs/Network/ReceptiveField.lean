import Mathlib.Tactic.IntervalCases
import SchemaNet.Network.Footprint
import SchemaNet.Proofs.Network.Evaluation
import SchemaNet.Proofs.Network.WalkDomain

/-!
What the score of an action can depend on. Each hidden layer carries values from an action to
the actions that share a proposition with it, so a network with `n` hidden layers reads no
farther than `n` such steps away, skip connections or not.
-/

namespace SchemaNet

/-- Whether two actions have a proposition in their slots in common. -/
def GroundAction.meets (action other : GroundAction) : Bool :=
  action.slots.any fun held => other.slots.any (·.ident == held.ident)

/-- The actions that are at most so many shared propositions away from an action. -/
def Problem.within (problem : Problem) (action : GroundAction) : Nat → List GroundAction
  | 0 => [action]
  | n + 1 =>
    problem.within action n ++
      problem.actions.filter fun other => (problem.within action n).any (·.meets other)

namespace Problem

variable {problem : Problem} {action other : GroundAction} {n : Nat}

theorem self_mem_within (problem : Problem) (action : GroundAction) (n : Nat) :
    action ∈ problem.within action n := by
  induction n with
  | zero => exact List.mem_singleton.2 rfl
  | succ n ih => exact List.mem_append_left _ ih

/-- From an action one step away nothing is more than one step farther. -/
theorem within_subset (mem : other ∈ problem.actions) (near : action.meets other) :
    problem.within other n ⊆ problem.within action (n + 1) := by
  induction n with
  | zero =>
    intro reached h
    obtain rfl := List.mem_singleton.1 h
    refine List.mem_append_right _ (List.mem_filter.2 ⟨mem, ?_⟩)
    exact List.any_eq_true.2 ⟨action, List.mem_singleton.2 rfl, near⟩
  | succ n ih =>
    intro reached h
    rcases List.mem_append.1 h with h | h
    · exact List.mem_append_left _ (ih h)
    · obtain ⟨listed, h⟩ := List.mem_filter.1 h
      obtain ⟨last, hlast, step⟩ := List.any_eq_true.1 h
      refine List.mem_append_right _ (List.mem_filter.2 ⟨listed, ?_⟩)
      exact List.any_eq_true.2 ⟨last, ih hlast, step⟩

theorem meets_of_held {prop : GroundAtom} {schema : Symbol} {k : Nat}
    (held : prop ∈ problem.heldBy action) (holds : other ∈ problem.holders schema k prop) :
    action.meets other := by
  obtain ⟨-, own, hown, same⟩ := mem_heldBy.1 held
  have fills := (List.mem_filter.1 holds).2
  rw [GroundAction.fills, Bool.and_eq_true, Option.any_eq_true] at fills
  obtain ⟨-, its, hits, shared⟩ := fills
  refine List.any_eq_true.2 ⟨own, hown, List.any_eq_true.2 ⟨its, List.mem_of_getElem? hits, ?_⟩⟩
  rw [same]
  exact shared

theorem within_listed (mem : action ∈ problem.actions) (h : other ∈ problem.within action n) :
    other ∈ problem.actions := by
  induction n with
  | zero => exact List.mem_singleton.1 h ▸ mem
  | succ n ih =>
    rcases List.mem_append.1 h with h | h
    · exact ih h
    · exact (List.mem_filter.1 h).1

end Problem

variable {α : Type}

/-- Two readings say the same of some actions: their features are equal and the propositions
in their slots have equal truth. -/
def Reading.Agree (reading other : Reading α) (problem : Problem) (actions : List GroundAction) :
    Prop :=
  ∀ action ∈ actions, reading.features action = other.features action ∧
    ∀ prop ∈ problem.heldBy action, reading.truth prop = other.truth prop

theorem Reading.Agree.mono {reading other : Reading α} {problem : Problem}
    {actions fewer : List GroundAction} (h : reading.Agree other problem actions)
    (subset : fewer ⊆ actions) : reading.Agree other problem fewer :=
  fun action haction => h action (subset haction)

/-- The same of one row of two inputs, entity by entity at their places. -/
structure PolicyInput.AgreeAt (input other : PolicyInput α) (problem : Problem) (b : Nat)
    (actions : List GroundAction) : Prop where
  features : ∀ (id : Nat) (action : GroundAction), problem.actions[id]? = some action →
    action ∈ actions → (input.extra.rows[b]?).bind (·[id]?) = (other.extra.rows[b]?).bind (·[id]?)
  truth : ∀ (id : Nat) (prop : GroundAtom), problem.props[id]? = some prop →
    (∃ action ∈ actions, ∃ held ∈ action.slots, held.ident = prop.ident) →
      (input.props.rows[b]?).bind (·[id]?) = (other.props.rows[b]?).bind (·[id]?)

theorem PolicyInput.AgreeAt.readings [Scalar α] {input other : PolicyInput α} {problem : Problem}
    {b : Nat} {actions : List GroundAction} (h : input.AgreeAt other problem b actions)
    (listed : ∀ action ∈ actions, action ∈ problem.actions) :
    (input.reading problem b).Agree (other.reading problem b) problem actions := by
  intro action haction
  obtain ⟨id, hid⟩ := List.getElem?_of_mem (listed action haction)
  refine ⟨?_, fun prop hprop => ?_⟩
  · rw [reading_features hid, reading_features hid, getD_getD, getD_getD,
      h.features id action hid haction]
  · obtain ⟨mem, held⟩ := Problem.mem_heldBy.1 hprop
    obtain ⟨j, hj⟩ := List.getElem?_of_mem mem
    rw [reading_truth hj, reading_truth hj, getD_getD, getD_getD,
      h.truth j prop hj ⟨action, haction, held⟩]

namespace Relational

variable [Scalar α] {problem : Problem} (config : ModuleConfig α) (weights : Weights α)
  {reading other : Reading α} {layer : Nat}

theorem actionValue_congr {before before' : Values α} {action : GroundAction}
    (features : reading.features action = other.features action)
    (acts : before.acts action = before'.acts action)
    (props : ∀ prop ∈ problem.heldBy action, before.props prop = before'.props prop) :
    actionValue problem config weights reading layer before action =
      actionValue problem config weights other layer before' action := by
  rw [actionValue, actionValue, actionView, actionView, List.flatMap_congr props, features, acts]

theorem propValue_congr {acts acts' : GroundAction → List α} {before before' : Values α}
    {prop : GroundAtom}
    (holders : ∀ schema k, ∀ action ∈ problem.holders schema k prop, acts action = acts' action)
    (own : before.props prop = before'.props prop) :
    propValue problem config weights layer acts before prop =
      propValue problem config weights layer acts' before' prop := by
  have pools : ∀ schema k, pooled problem config weights layer acts prop schema k =
      pooled problem config weights layer acts' prop schema k := by
    intro schema k
    rw [pooled, pooled, List.map_congr_left (holders schema.name k)]
  simp only [propValue, propView, pools, own]

/-- Before a layer an action has what follows from the actions within that distance, and so
have the propositions in its slots. -/
theorem values_local {action : GroundAction} (mem : action ∈ problem.actions)
    (agree : reading.Agree other problem (problem.within action layer)) :
    (values problem config weights reading layer).acts action =
        (values problem config weights other layer).acts action ∧
      ∀ prop ∈ problem.heldBy action,
        (values problem config weights reading layer).props prop =
          (values problem config weights other layer).props prop := by
  induction layer generalizing action with
  | zero =>
    refine ⟨rfl, fun prop hprop => ?_⟩
    have truth := (agree action (problem.self_mem_within action 0)).2 prop hprop
    exact congrArg (fun value => [value, _]) truth
  | succ layer ih =>
    -- what one module of the layer computes, for any action
    have acted : ∀ action ∈ problem.actions,
        reading.Agree other problem (problem.within action layer) →
          actionValue problem config weights reading layer
              (values problem config weights reading layer) action =
            actionValue problem config weights other layer
              (values problem config weights other layer) action := by
      intro action mem agree
      have before := ih mem agree
      have own := (agree action (problem.self_mem_within action layer)).1
      exact actionValue_congr config weights own before.1 before.2
    have nearer := agree.mono (List.subset_append_left _ _)
    refine ⟨acted action mem nearer, fun prop hprop =>
      propValue_congr config weights ?_ ((ih mem nearer).2 prop hprop)⟩
    intro schema k holder hholder
    have listed := (List.mem_filter.1 hholder).1
    exact acted holder listed
      (agree.mono (Problem.within_subset listed (Problem.meets_of_held hprop hholder)))

theorem score_local {action : GroundAction} (mem : action ∈ problem.actions)
    (agree : reading.Agree other problem (problem.within action weights.arch.final)) :
    score problem config weights reading action = score problem config weights other action := by
  have before := values_local config weights mem agree
  rw [score, score, actionValue_congr config weights
    (agree action (problem.self_mem_within action _)).1 before.1 before.2]

end Relational

/-- The score of an action in a row depends on the features of the actions within as many steps
as there are hidden layers, and on the truth of their propositions, in that row. -/
theorem PolicyNetwork.logits_read_receptive_field [Scalar α] {net : PolicyNetwork α}
    {weights : Weights α} {input other : PolicyInput α} {b id : Nat} {action : GroundAction}
    (sized : other.Sized net.problem net.arch) (hb : b < input.props.height)
    (hb' : b < other.props.height)
    (hid : net.problem.actions[id]? = some action)
    (agree : input.AgreeAt other net.problem b (net.problem.within action net.arch.numHidden)) :
    (∀ scores, net.logits weights input = .ok scores →
      ∃ others value, net.logits weights other = .ok others ∧
        (scores.rows[b]?).bind (·[id]?) = some value ∧
        (others.rows[b]?).bind (·[id]?) = some value) ∧
    ∀ scores others, (Memory.logits net weights input).outcome.1 = .ok scores →
      (Memory.logits net weights other).outcome.1 = .ok others →
        ∃ value, (scores.rows[b]?).bind (·[id]?) = some value ∧
          (others.rows[b]?).bind (·[id]?) = some value := by
  have mem := List.mem_of_getElem? hid
  have readings := agree.readings fun near hnear => Problem.within_listed mem hnear
  -- both entries are the score in the reading of their row
  have entries : ∀ scores others, net.logits weights input = .ok scores →
      net.logits weights other = .ok others →
        ∃ value, (scores.rows[b]?).bind (·[id]?) = some value ∧
          (others.rows[b]?).bind (·[id]?) = some value := by
    intro scores others hscores hothers
    obtain ⟨-, fits, -⟩ := exists_logits_iff.1 ⟨scores, hscores⟩
    have layers : weights.arch.final = net.arch.numHidden := by rw [fits.arch_eq]; rfl
    have same := Relational.score_local net.config weights mem (layers ▸ readings)
    exact ⟨_, (logits_tabulate hscores).getElem? hb hid,
      same ▸ (logits_tabulate hothers).getElem? hb' hid⟩
  constructor
  · intro scores hscores
    obtain ⟨-, runs⟩ := exists_logits_iff.1 ⟨scores, hscores⟩
    obtain ⟨others, hothers⟩ := exists_logits_iff.2 ⟨sized, runs⟩
    obtain ⟨value, hvalue⟩ := entries scores others hscores hothers
    exact ⟨others, value, hothers, hvalue⟩
  · intro scores others hscores hothers
    exact entries scores others (Memory.logits_eq_ok hscores) (Memory.logits_eq_ok hothers)

namespace WalkDomain

/-- The second state with somebody at the depot and other features of the ring, among
different states. -/
def changed : PolicyInput Whole :=
  { props := ⟨3, 4, [0, 0, 0, 0, 0, 1, 0, 1, 1, 1, 1, 1].map Whole.mk, rfl⟩
    extra := ⟨3, 3, 1, [4, 4, 4, 9, 1, 0, 5, 6, 7].map Whole.mk, rfl⟩ }

def firstWalk : GroundAction := ⟨"walk", ["a", "b"], [⟨"at", ["a"]⟩, ⟨"at", ["b"]⟩]⟩

theorem changed_agrees :
    input.AgreeAt changed problem 1 (problem.within firstWalk arch.numHidden) := by
  have apart : ∀ action ∈ problem.within firstWalk arch.numHidden, ∀ held ∈ action.slots,
      held.ident ≠ GroundAtom.ident ⟨"at", ["depot"]⟩ := by decide
  constructor
  · intro id action hid
    have inside : id < 3 := (List.getElem?_eq_some_iff.1 hid).1
    interval_cases id <;> obtain rfl := Option.some.inj hid <;> decide
  · intro id prop hid
    have inside : id < 4 := (List.getElem?_eq_some_iff.1 hid).1
    interval_cases id <;> obtain rfl := Option.some.inj hid
    · exact fun _ => rfl
    · exact fun _ => rfl
    · exact fun _ => rfl
    · rintro ⟨action, haction, held, hheld, same⟩
      exact absurd same (apart action haction held hheld)

/-- Nobody walks at the depot, so the first walk does not see it. -/
theorem depot_out_of_reach : changed.Sized problem arch ∧
    ∃ net scores others, PolicyNetwork.forWeights problem weights config = .ok net ∧
      net.logits weights input = .ok scores ∧ net.logits weights changed = .ok others ∧
      ∃ value, (scores.rows[1]?).bind (·[1]?) = some value ∧
        (others.rows[1]?).bind (·[1]?) = some value := by
  have sized : changed.Sized problem arch := ⟨rfl, rfl⟩
  have same : weights.domain = problem.domain := rfl
  have valid : config.validate = .ok () := rfl
  obtain ⟨net, hnet, hproblem, harch, -⟩ :=
    PolicyNetwork.exists_forWeights weights_wellShaped same valid
  have fits : net.Matches weights := ⟨same.trans (congrArg _ hproblem.symm), harch.symm⟩
  have sized' : changed.Sized net.problem net.arch := hproblem ▸ harch ▸ sized
  have agree : input.AgreeAt changed net.problem 1
      (net.problem.within firstWalk net.arch.numHidden) := by
    rw [hproblem, harch]
    exact changed_agrees
  have given : input.Sized net.problem net.arch := by
    rw [hproblem, harch]
    exact ⟨rfl, rfl⟩
  obtain ⟨scores, hscores⟩ :=
    PolicyNetwork.exists_logits_iff.2 ⟨given, fits, weights_wellShaped.coherent⟩
  have listed : net.problem.actions[1]? = some firstWalk := by
    rw [hproblem]
    rfl
  obtain ⟨run, -⟩ := PolicyNetwork.logits_read_receptive_field sized'
    (by decide) (by decide) listed agree
  obtain ⟨others, value, hothers, entries⟩ := run scores hscores
  exact ⟨sized, net, scores, others, hnet, hscores, hothers, value, entries⟩

end WalkDomain

end SchemaNet
