import SchemaNet.Proofs.Network.Capacity
import SchemaNet.Proofs.Network.WalkDomain

/-!
An evaluation with blocks of the right shapes has a result for every input of the right
sizes. Widths, blocks, the merge and all positions fit; only the size of a tensor can be
refused, and that happens exactly when one of them cannot be held.
-/

namespace SchemaNet
open Memory (bind_eq_ok)

namespace PolicyNetwork

variable {α : Type} [Scalar α] {net : PolicyNetwork α} {weights : Weights α}

/-- An input of the right sizes has scores; under the limits of a memory they are returned exactly
if every tensor can be held. -/
theorem scores_of_sized {input : PolicyInput α} (shaped : weights.WellShaped)
    (fits : net.Matches weights) (sized : input.Sized net.problem net.arch) :
    ∃ scores, net.logits weights input = .ok scores ∧
      scores.dims = [input.props.height, net.problem.numActions] ∧
      ((Memory.logits net weights input).outcome.1 = .ok scores ↔
        net.problem.Fits weights input.props.height) ∧
      ∀ fault, (Memory.logits net weights input).outcome.1 = .error fault → fault.ofSize := by
  obtain ⟨scores, hscores⟩ := exists_logits_iff.2 ⟨sized, fits, shaped.coherent⟩
  have tabulated := logits_tabulate hscores
  refine ⟨scores, hscores, ?_, ?_, ?_⟩
  · rw [Grid.dims, tabulated.height_eq, tabulated.width_eq]
    rfl
  · rw [memory_logits sized fits, check_bind_eq_ok, checkSizes_eq_ok fits shaped, hscores]
    simp
  · rw [memory_logits sized fits, hscores]
    exact (OnlySizes.checkSizes net _).bind fun _ => .ok scores

end PolicyNetwork

namespace WalkDomain

theorem problem_fits : problem.Fits weights input.props.height where
  initial := by decide
  modules key hkey := by
    have view : ∀ key ∈ weights.keys,
        Size.isIndexable [2, problem.numEntities key, weights.viewWidth key] := by decide
    have output : ∀ key ∈ weights.keys,
        Size.isStorable [2, problem.numEntities key, weights.outputsOf key] := by decide
    have pools : ∀ key ∈ weights.keys, ∀ width ∈ weights.poolWidths key,
        Size.isStorable [2, problem.numEntities key, width] := by decide
    exact ⟨view key hkey, output key hkey, pools key hkey⟩

end WalkDomain

namespace HugeBatch

/-! A batch without actions and propositions can have more rows than any array has entries. -/

def domain : Domain := ⟨"d", [⟨"go", ["?x"], [⟨"at", ["?x"]⟩]⟩], ["at"], by decide⟩

def problem : Problem where
  name := "p"
  domain := domain
  actions := []
  props := []
  goals := []
  index := Problem.Index.ofEntities domain [] [] []
  actions_sorted := .nil
  props_sorted := .nil
  goals_sorted := .nil
  faultless := by decide
  index_eq := rfl

def arch : Architecture := ⟨[⟨2, 3⟩], 0, false⟩

def weights : Weights Whole where
  domain := domain
  arch := arch
  blocks := [.zeros 2 2, .zeros 2 3, .zeros 3 1]
  aligned := by decide

theorem weights_wellShaped : weights.WellShaped :=
  Weights.wellShaped_of_entries (by decide) (by decide) (by decide)

def input : PolicyInput Whole :=
  { props := ⟨3458764513820540928, 0, [], rfl⟩
    extra := ⟨3458764513820540928, 0, 0, [], rfl⟩ }

end HugeBatch

end SchemaNet
