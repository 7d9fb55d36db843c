import Mathlib.Data.List.Perm.Subperm
import SchemaNet.Proofs.Network.Evaluation
import SchemaNet.Proofs.Network.WalkDomain

/-!
The merge of the final outputs. The places of the actions in the list by schemas are a
permutation of their numbers, so every score comes from one entry of one output: that of the
action's schema, at the action's position there.
-/

namespace SchemaNet

namespace Problem

variable {problem : Problem}

theorem place_inj {a b : ActId} (ha : a < problem.numActions) (hb : b < problem.numActions)
    (same : problem.place a = problem.place b) : a = b := by
  have read := getElem?_place (List.getElem?_eq_getElem (l := problem.actions) ha)
  have read' := getElem?_place (List.getElem?_eq_getElem (l := problem.actions) hb)
  rw [same, read', Option.some_inj] at read
  exact ((problem.actions_distinct.of_map).getElem_inj_iff.1 read).symm

theorem places_perm (problem : Problem) :
    ((List.range problem.numActions).map problem.place).Perm (List.range problem.numActions) := by
  have distinct : ((List.range problem.numActions).map problem.place).Nodup := by
    refine (List.nodup_map_iff_inj_on List.nodup_range).2 fun a ha b hb => ?_
    exact place_inj (List.mem_range.1 ha) (List.mem_range.1 hb)
  have inside : (List.range problem.numActions).map problem.place ⊆
      List.range problem.numActions := by
    intro i hi
    obtain ⟨a, ha, rfl⟩ := List.mem_map.1 hi
    exact List.mem_range.2 (place_lt (List.mem_range.1 ha))
  -- as many places as actions, all in range and none twice, so none is left out
  exact (List.subperm_of_subset distinct inside).perm_of_length_le (by simp)

theorem schemaOffset_eq_sum (problem : Problem) (s : SchemaId) :
    problem.schemaOffset s =
      Size.total ((List.range s).map fun before => (problem.schemaActions before).length) := by
  rw [schemaOffset_eq, List.length_flatMap]
  refine congrArg Size.total (List.map_congr_left fun before _ => ?_)
  exact (problem.picks_schemaActions before).length_eq.symm

end Problem

namespace Tensor

variable {α β : Type}

def cell? (tensor : Tensor α) (b i c : Nat) : Option α :=
  ((tensor.rows[b]?).bind (·[i]?)).bind (·[c]?)

/-- A tensor tabulates what it holds, if its entities are listed without repetition. -/
theorem tabulates_self [BEq β] [LawfulBEq β] {tensor : Tensor α} {batch channels : Nat}
    {xs : List β} (distinct : xs.Nodup) (dims : tensor.dims = [batch, xs.length, channels]) :
    tensor.Tabulates batch xs channels fun b x =>
      entityAt (tensor.rows.getD b []) (xs.idxOf x) := by
  simp only [Tensor.dims, List.cons.injEq, and_true] at dims
  obtain ⟨batch_eq, entities_eq, channels_eq⟩ := dims
  refine ⟨batch_eq, entities_eq, channels_eq, ?_⟩
  have rows := map_range_getD tensor.rows []
  rw [tensor.rows_dims.count, batch_eq] at rows
  rw [← rows]
  refine List.map_congr_left fun b hb => ?_
  have inside : b < tensor.rows.length := by
    rw [tensor.rows_dims.count, batch_eq]
    exact List.mem_range.1 hb
  have size : (tensor.rows.getD b []).length = xs.length := by
    rw [List.getD_eq_getElem?_getD, List.getElem?_eq_getElem inside, Option.getD_some,
      (tensor.rows_dims.each _ (List.getElem_mem inside)).count, entities_eq]
  rw [rows]
  have own : (xs.map id).Nodup := by rwa [List.map_id]
  exact (map_getD_findIdx own size).symm

/-- What tensors hold of an entity, which belongs to the tensor at the place `familyOf`. -/
def channelsIn [BEq β] (familyOf : β → Nat) (entities : Nat → List β) (tensors : List (Tensor α))
    (b : Nat) (x : β) : List α :=
  ((tensors[familyOf x]?).map fun tensor =>
    entityAt (tensor.rows.getD b []) ((entities (familyOf x)).idxOf x)).getD []

/-- Tensors with an entry for every entity tabulate what they hold. -/
theorem family_channelsIn [BEq β] [LawfulBEq β] {familyOf : β → Nat} {entities : Nat → List β}
    {batch count : Nat} {widths : Nat → Nat} {tensors : List (Tensor α)}
    (distinct : ∀ i, (entities i).Nodup) (own : ∀ i, ∀ x ∈ entities i, familyOf x = i)
    (shapes : List.Forall₂ (fun i tensor => tensor.dims = [batch, (entities i).length, widths i])
      (List.range count) tensors) :
    Family batch count entities widths (channelsIn familyOf entities tensors) tensors := by
  refine List.forall₂_iff_get.2 ⟨shapes.length_eq, fun i hi hi' => ?_⟩
  have dims := shapes.get hi hi'
  simp only [List.get_eq_getElem, List.getElem_range] at dims ⊢
  refine (tabulates_self (distinct i) dims).congr fun b _ x hx => ?_
  rw [channelsIn, own i x hx, List.getElem?_eq_getElem hi', Option.map_some, Option.getD_some]

theorem Tabulates.cell?_eq {tensor : Tensor α} {batch channels : Nat} {xs : List β}
    {value : Nat → β → List α} (h : tensor.Tabulates batch xs channels value) {b i : Nat} {x : β}
    (hb : b < batch) (hi : xs[i]? = some x) (c : Nat) : tensor.cell? b i c = (value b x)[c]? := by
  rw [cell?, h.rows_eq, List.getElem?_map, List.getElem?_range hb, Option.map_some,
    Option.bind_some, List.getElem?_map, hi, Option.map_some, Option.bind_some]

end Tensor

namespace PolicyNetwork

variable {α : Type} {net : PolicyNetwork α} {batch : Nat} {outs : List (Tensor α)}

/-- What the final outputs hold of an action. -/
def channelsOf (net : PolicyNetwork α) (outs : List (Tensor α)) (b : Nat) (action : GroundAction) :
    List α :=
  let s := net.problem.domain.schemaPosition action.schema
  ((outs[s]?).map fun out =>
    Tensor.entityAt (out.rows.getD b []) ((net.problem.instances s).idxOf action)).getD []

theorem family_channelsOf
    (shapes : List.Forall₂
      (fun s out => out.dims = [batch, (net.problem.schemaActions s).length, 1])
      (List.range net.problem.domain.numSchemas) outs) :
    Tensor.Family batch net.problem.domain.numSchemas net.problem.instances (fun _ => 1)
      (net.channelsOf outs) outs := by
  refine Tensor.family_channelsIn net.problem.instances_nodup
    (fun _ _ => Problem.schemaPosition_of_mem_instances) (shapes.imp fun s out dims => ?_)
  rw [dims, (net.problem.picks_schemaActions s).length_eq]

/-- Final outputs of the right shapes are merged into scores that copy, for each action, the
entry of its schema's output at its position there. -/
theorem merged_entries [Scalar α]
    (shapes : List.Forall₂
      (fun s out => out.dims = [batch, (net.problem.schemaActions s).length, 1])
      (List.range net.problem.domain.numSchemas) outs) :
    ∃ scores, net.mergeOutputs batch outs = .ok scores ∧
      scores.dims = [batch, net.problem.numActions] ∧
      ∀ b < batch, ∀ a < net.problem.numActions, ∃ (out : Tensor α) (value : α),
        outs[net.problem.actSchema a]? = some out ∧
          out.cell? b (net.problem.actPosition a) 0 = some value ∧
            (scores.rows[b]?).bind (·[a]?) = some value := by
  have family := family_channelsOf shapes
  obtain ⟨scores, merged, tabulated⟩ :=
    mergeOutputs_tabulates (List.forall₂_map_right_iff.2 family.flip)
  refine ⟨scores, merged, ?_, fun b hb a ha => ?_⟩
  · rw [Grid.dims, tabulated.height_eq, tabulated.width_eq]
    rfl
  · have haction := List.getElem?_eq_getElem (l := net.problem.actions) ha
    have inside : net.problem.actSchema a < net.problem.domain.numSchemas := by
      rw [Problem.actSchema_eq haction]
      exact Problem.schemaPosition_action (List.getElem_mem ha)
    obtain ⟨out, hout, own⟩ := family.exists_tensor inside
    have place := Problem.getElem?_actPosition haction
    rw [← Problem.actSchema_eq haction] at place
    have single := own.value_length hb (List.mem_of_getElem? place)
    obtain ⟨value, hvalue⟩ := List.length_eq_one_iff.1 single
    refine ⟨out, value, BlockKey.orOutOfRange_eq_ok.1 hout, ?_, ?_⟩
    · rw [own.cell?_eq hb place, hvalue]
      rfl
    · rw [tabulated.getElem? hb haction, hvalue]
      rfl

/-- The merge is a permutation of the actions. It lists them schema by schema, and it takes every
score from the output of the action's schema. -/
theorem merge_by_schema (α : Type) [Scalar α] (problem : Problem) :
    ∃ merge, problem.mergeIndices = .ok merge ∧ merge.Perm (List.range problem.numActions) ∧
      (∀ a < problem.numActions, merge[a]? = some
        (Size.total ((List.range (problem.actSchema a)).map fun s =>
            (problem.schemaActions s).length) + problem.actPosition a)) ∧
      ∀ (net : PolicyNetwork α) (batch : Nat) (outs : List (Tensor α)), net.problem = problem →
        List.Forall₂ (fun s out => out.dims = [batch, (problem.schemaActions s).length, 1])
          (List.range problem.domain.numSchemas) outs →
        ∃ scores, net.mergeOutputs batch outs = .ok scores ∧
          scores.dims = [batch, problem.numActions] ∧
          ∀ b < batch, ∀ a < problem.numActions, ∃ (out : Tensor α) (value : α),
            outs[problem.actSchema a]? = some out ∧
              out.cell? b (problem.actPosition a) 0 = some value ∧
                (scores.rows[b]?).bind (·[a]?) = some value := by
  refine ⟨_, problem.mergeIndices_eq, problem.places_perm, fun a ha => ?_, ?_⟩
  · rw [List.getElem?_map, List.getElem?_range ha, Option.map_some, Problem.place,
      Problem.schemaOffset_eq_sum]
  · rintro net batch outs rfl shapes
    exact merged_entries shapes

end PolicyNetwork

namespace WalkDomain

/-- Scores of the two walks and of the ring; nobody waits. -/
def finalOutputs : List (Tensor Whole) :=
  [⟨1, 2, 1, [⟨10⟩, ⟨20⟩], by decide⟩, ⟨1, 1, 1, [⟨30⟩], by decide⟩, ⟨1, 0, 1, [], by decide⟩]

theorem merged_walks : ∃ net : PolicyNetwork Whole, net.problem = problem ∧
    List.Forall₂ (fun s out => Tensor.dims out = [1, (problem.schemaActions s).length, 1])
      (List.range problem.domain.numSchemas) finalOutputs ∧
    ∃ scores, net.mergeOutputs 1 finalOutputs = .ok scores ∧
      (scores.rows[0]?).bind (·[0]?) = some ⟨30⟩ ∧ (scores.rows[0]?).bind (·[1]?) = some ⟨10⟩ := by
  have shapes : List.Forall₂
      (fun s out => Tensor.dims out = [1, (problem.schemaActions s).length, 1])
      (List.range problem.domain.numSchemas) finalOutputs :=
    .cons (by decide) (.cons (by decide) (.cons (by decide) .nil))
  obtain ⟨merge, merge_eq, -, -, run⟩ := PolicyNetwork.merge_by_schema Whole problem
  obtain ⟨scores, merged, -, entry⟩ := run
    ⟨problem, arch, config, Wiring.ofProblem problem, merge, rfl, merge_eq⟩ 1 finalOutputs rfl
    shapes
  refine ⟨_, rfl, shapes, scores, merged, ?_, ?_⟩
  · obtain ⟨out, value, hout, hvalue, score⟩ := entry 0 (by decide) 0 (by decide)
    have ring : problem.actSchema 0 = 1 ∧ problem.actPosition 0 = 0 := by decide
    rw [ring.1] at hout
    rw [ring.2, ← Option.some.inj hout] at hvalue
    rw [score, ← hvalue]
    rfl
  · obtain ⟨out, value, hout, hvalue, score⟩ := entry 0 (by decide) 1 (by decide)
    have walk : problem.actSchema 1 = 0 ∧ problem.actPosition 1 = 0 := by decide
    rw [walk.1] at hout
    rw [walk.2, ← Option.some.inj hout] at hvalue
    rw [score, ← hvalue]
    rfl

end WalkDomain

end SchemaNet
