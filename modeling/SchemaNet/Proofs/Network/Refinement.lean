import SchemaNet.Proofs.Network.Totality

/-!
The evaluation by tables of positions refines the recursion over the entities: the network
of a problem can be assembled, every input of the right sizes has scores, and the score of an
action in a row is the one that the relations give it. Only a tensor that no memory can hold
keeps the scores from being returned.
-/

namespace SchemaNet

theorem PolicyNetwork.logits_refine_relations {α : Type} [Scalar α] {problem : Problem}
    {weights : Weights α} {config : ModuleConfig α} (shaped : weights.WellShaped)
    (same : weights.domain = problem.domain) (valid : config.validate = .ok ()) :
    ∃ net, forWeights problem weights config = .ok net ∧
      ∀ input : PolicyInput α, input.Sized problem weights.arch →
        ∃ scores, net.logits weights input = .ok scores ∧
          scores.dims = [input.props.height, problem.numActions] ∧
          (∀ b < input.props.height, ∀ (id : Nat) (action : GroundAction),
            problem.actions[id]? = some action →
              (scores.rows[b]?).bind (·[id]?) = some
                (Relational.score problem config weights (input.reading problem b) action)) ∧
          ((Memory.logits net weights input).outcome.1 = .ok scores ↔
            problem.Fits weights input.props.height) ∧
          (∀ result, (Memory.logits net weights input).outcome.1 = .ok result → result = scores) ∧
          ∀ fault, (Memory.logits net weights input).outcome.1 = .error fault → fault.ofSize := by
  obtain ⟨net, hnet, rfl, harch, rfl⟩ := exists_forWeights shaped same valid
  refine ⟨net, hnet, fun input sized => ?_⟩
  rw [← harch] at sized
  obtain ⟨scores, hscores, dims, held, faults⟩ := scores_of_sized shaped ⟨same, harch.symm⟩ sized
  refine ⟨scores, hscores, dims,
    fun b hb id action hid => (logits_tabulate hscores).getElem? hb hid, held, ?_, faults⟩
  intro result hresult
  exact Except.ok.inj ((Memory.logits_eq_ok hresult).symm.trans hscores)

namespace WalkDomain

theorem score_of_second_walk : weights.WellShaped ∧ weights.domain = problem.domain ∧
    config.validate = .ok () ∧ input.Sized problem arch ∧
    ∃ net scores, PolicyNetwork.forWeights problem weights config = .ok net ∧
      net.logits weights input = .ok scores ∧
      (Memory.logits net weights input).outcome.1 = .ok scores ∧
      (scores.rows[1]?).bind (·[2]?) = some ⟨85⟩ := by
  have sized : input.Sized problem arch := ⟨rfl, rfl⟩
  have same : weights.domain = problem.domain := rfl
  have valid : config.validate = .ok () := rfl
  obtain ⟨net, hnet, run⟩ := PolicyNetwork.logits_refine_relations weights_wellShaped same valid
  obtain ⟨scores, hscores, -, entry, held, -⟩ := run input sized
  refine ⟨weights_wellShaped, same, valid, sized, net, scores, hnet, hscores,
    held.2 problem_fits, ?_⟩
  rw [entry 1 (by decide) 2 _ rfl]
  decide

end WalkDomain

end SchemaNet
