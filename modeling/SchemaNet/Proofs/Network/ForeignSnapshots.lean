import SchemaNet.Proofs.Network.ArchitectureShapes
import SchemaNet.Proofs.Network.Provenance

/-!
Snapshots of another architecture. A store compares the domain of a snapshot and the names and
shapes of its blocks; the architecture that the snapshot records is not looked at. So a snapshot
of drawn weights is accepted exactly if no block tells the two architectures apart.
-/

namespace SchemaNet
open Memory (bind_eq_ok)

section Alike

variable {α : Type} {domain : Domain} {arch other : Architecture}

namespace Snapshot

variable {weights : Weights α}

theorem exists_shape (shaped : weights.WellShaped) :
    ∀ key ∈ BlockKey.all weights.domain weights.arch, ∃ inputs outputs,
      (key.shape weights.domain weights.arch : Except (NetworkError α) (Nat × Nat)) =
        .ok (inputs, outputs) := by
  intro key mem
  obtain ⟨block, -, shape, -⟩ := shaped.exists_block mem
  exact ⟨_, _, shape⟩

/-- Keys that both architectures have are named alike by both. -/
theorem name_eq_of_all (valid : domain.validate = .ok ())
    (keys : BlockKey.all domain arch = BlockKey.all domain other) {key : BlockKey}
    (mem : key ∈ BlockKey.all domain arch) :
    (key.name domain arch : Except (NetworkError α) String) = key.name domain other :=
  BlockKey.name_congr
    (BlockKey.final_eq_of_all (BlockKey.numSchemas_pos_of_mem valid mem) keys) key

/-- Named blocks that are those of both architectures show that their shapes are the same. -/
theorem sharedShapes_of_belongs {pairs pairs' : List (String × WeightBlock α)}
    (valid : domain.validate = .ok ())
    (own : List.Forall₂ (Belongs domain arch) (BlockKey.all domain arch) pairs)
    (theirs : List.Forall₂ (Belongs domain other) (BlockKey.all domain other) pairs')
    (held : pairs.Perm pairs') : BlockKey.SharedShapes α domain arch other := by
  have keys : BlockKey.all domain arch = BlockKey.all domain other :=
    BlockKey.all_eq_of_length valid
      (own.length_eq.trans (held.length_eq.trans theirs.length_eq.symm))
  have distinct := names_nodup_of_belongs own (BlockKey.all_nodup _ _)
  refine ⟨keys, fun key mem => ?_⟩
  obtain ⟨pair, hpair, belongs⟩ := forall₂_mem_left own mem
  obtain ⟨pair', hpair', belongs'⟩ := forall₂_mem_left theirs (keys ▸ mem)
  have named : pair.1 = pair'.1 := Except.ok.inj
    (belongs.named.symm.trans ((name_eq_of_all valid keys mem).trans belongs'.named))
  obtain rfl : pair = pair' :=
    List.inj_on_of_nodup_map distinct hpair (held.mem_iff.2 hpair') named
  exact ⟨_, _, belongs.shaped.1, belongs'.shaped.1⟩

theorem belongs_of_sharedShapes {pairs : List (String × WeightBlock α)}
    (valid : domain.validate = .ok ()) (h : BlockKey.SharedShapes α domain arch other)
    (own : List.Forall₂ (Belongs domain arch) (BlockKey.all domain arch) pairs) :
    List.Forall₂ (Belongs domain other) (BlockKey.all domain other) pairs := by
  rw [← h.all_eq]
  refine forall₂_imp_mem own fun key mem pair belongs => ?_
  obtain ⟨inputs, outputs, here, there⟩ := h.shapes key mem
  have same := here.symm.trans belongs.shaped.1
  exact ⟨(name_eq_of_all valid h.all_eq mem).symm.trans belongs.named,
    there.trans same, belongs.shaped.2⟩

/-- A snapshot of weights is restored for an architecture that no block tells apart from theirs. -/
theorem exists_restore_ofWeights_iff (shaped : weights.WellShaped) :
    (∃ restored, (ofWeights weights).restore domain other = .ok restored) ↔
      weights.domain = domain ∧ (∀ sizes ∈ other.hidden, sizes.act ≠ 0 ∧ sizes.prop ≠ 0) ∧
        weights.arch.AlikeFor domain other := by
  obtain ⟨-, -, -, pairs, own, held, -⟩ := restore_eq_ok_iff.1 (restore_ofWeights shaped)
  have widths := Architecture.validate_eq_ok.1 shaped.arch_valid
  constructor
  · rintro ⟨restored, h⟩
    obtain ⟨rfl, valid, -, pairs', theirs, held', -⟩ := restore_eq_ok_iff.1 h
    have shapes := sharedShapes_of_belongs shaped.domain_valid own theirs (held.symm.trans held')
    exact ⟨rfl, Architecture.validate_eq_ok.1 valid,
      shapes.alike shaped.domain_valid fun sizes mem => (widths sizes mem).1⟩
  · rintro ⟨rfl, valid, alike⟩
    have shapes := BlockKey.SharedShapes.of_alike shaped.domain_valid alike (exists_shape shaped)
    have theirs := belongs_of_sharedShapes shaped.domain_valid shapes own
    have aligned : (pairs.map (·.2)).length = (BlockKey.all weights.domain other).length := by
      rw [List.length_map, theirs.length_eq]
    exact ⟨_, restore_eq_ok_iff.2 ⟨rfl, Architecture.validate_eq_ok.2 valid, shaped.domain_valid,
      pairs, theirs, held, aligned, rfl⟩⟩

end Snapshot

namespace WeightStore

theorem restore_eq_ok {store restored : WeightStore α} {snapshot : Snapshot α} :
    store.restore snapshot = .ok restored ↔ ∃ weights,
      snapshot.restore store.weights.domain store.weights.arch = .ok weights ∧
        ⟨weights, store.version + 1⟩ = restored := by
  rw [restore, bind_eq_ok]
  simp only [pure_eq_ok, Except.ok.injEq]

theorem exists_restore_iff (store : WeightStore α) {snapshot : Snapshot α} :
    (∃ restored, store.restore snapshot = .ok restored) ↔ ∃ weights,
      snapshot.restore store.weights.domain store.weights.arch = .ok weights := by
  simp only [restore_eq_ok]
  exact ⟨fun ⟨_, weights, ran, _⟩ => ⟨weights, ran⟩, fun ⟨weights, ran⟩ => ⟨_, weights, ran, rfl⟩⟩

/-- A snapshot of freshly allocated weights is restored into a store exactly if it records the
domain of the store and an architecture that no block tells apart from that of the store. The
store keeps its architecture, which is the recorded one if there are a predicate and a hidden
layer. -/
theorem restored_from_alike [Scalar α] (store : WeightStore α) {domain : Domain}
    {arch : Architecture} {seed : UInt64} {weights : Weights α}
    (allocated : Weights.allocate domain arch seed = .ok weights) :
    (Snapshot.ofWeights weights).domain = domain ∧ (Snapshot.ofWeights weights).arch = arch ∧
    ((∃ restored, store.restore (.ofWeights weights) = .ok restored) ↔
      domain = store.weights.domain ∧
        (∀ sizes ∈ store.weights.arch.hidden, sizes.act ≠ 0 ∧ sizes.prop ≠ 0) ∧
          arch.AlikeFor store.weights.domain store.weights.arch) ∧
    ∀ restored, store.restore (.ofWeights weights) = .ok restored →
      restored.weights.domain = store.weights.domain ∧
        restored.weights.arch = store.weights.arch ∧
          (0 < domain.numPredicates → arch.hidden ≠ [] → arch = store.weights.arch) := by
  obtain ⟨rfl, rfl, shaped⟩ := Weights.allocate_wellShaped allocated
  have accepted : (∃ restored, store.restore (.ofWeights weights) = .ok restored) ↔ _ :=
    store.exists_restore_iff.trans (Snapshot.exists_restore_ofWeights_iff shaped)
  refine ⟨rfl, rfl, accepted, fun restored h => ?_⟩
  obtain ⟨same, -, alike⟩ := accepted.1 ⟨restored, h⟩
  obtain ⟨new, ran, rfl⟩ := restore_eq_ok.1 h
  obtain ⟨domain_eq, arch_eq, -⟩ := Snapshot.restore_wellShaped ran
  refine ⟨domain_eq, arch_eq, fun some_pred => ?_⟩
  exact alike.eq (same ▸ Domain.numSchemas_pos shaped.domain_valid some_pred) (same ▸ some_pred)

end WeightStore

end Alike

namespace WalkDomain

theorem exists_drawn (arch : Architecture) (seed : UInt64)
    (made : (Weights.allocate domain arch seed :
      Except (NetworkError Whole) (Weights Whole)).toOption.isSome) :
    ∃ drawn : Weights Whole, Weights.allocate domain arch seed = .ok drawn := by
  cases allocated : (Weights.allocate domain arch seed :
      Except (NetworkError Whole) (Weights Whole)) with
  | error fault =>
    rw [allocated] at made
    cases made
  | ok drawn => exact ⟨drawn, rfl⟩

/-- Weights that were drawn for the architecture of a store are restored into it. -/
theorem drawn_weights_restored : ∃ drawn restored, Weights.allocate domain arch 7 = .ok drawn ∧
    (WeightStore.ofWeights weights).restore (.ofWeights drawn) = .ok restored ∧
      restored.weights.arch = (Snapshot.ofWeights drawn).arch := by
  obtain ⟨drawn, allocated⟩ := exists_drawn arch 7 (by decide +kernel)
  obtain ⟨-, recorded, accepted, kept⟩ :=
    WeightStore.restored_from_alike (WeightStore.ofWeights weights) allocated
  obtain ⟨restored, ran⟩ := accepted.2 ⟨rfl, by decide, .refl domain arch⟩
  exact ⟨drawn, restored, allocated, ran, (kept restored ran).2.1.trans recorded.symm⟩

/-- Without a hidden layer, weights for modules that see their own outputs are restored into a
store for modules that do not. -/
theorem own_outputs_unseen : ∃ drawn initial restored,
    Weights.allocate domain ⟨[], 1, true⟩ 7 = .ok drawn ∧
      WeightStore.allocate domain ⟨[], 1, false⟩ 7 = .ok initial ∧
        (initial : WeightStore Whole).restore (.ofWeights drawn) = .ok restored ∧
          (Snapshot.ofWeights drawn).arch ≠ initial.weights.arch := by
  obtain ⟨drawn, allocated⟩ := exists_drawn ⟨[], 1, true⟩ 7 (by decide +kernel)
  obtain ⟨own, made⟩ := exists_drawn ⟨[], 1, false⟩ 7 (by decide +kernel)
  obtain ⟨same, sees, shaped⟩ := Weights.allocate_wellShaped allocated
  obtain ⟨same', blind, -⟩ := Weights.allocate_wellShaped made
  have alike : drawn.arch.AlikeFor own.domain own.arch := by
    rw [sees, blind]
    exact ⟨fun _ => rfl, fun _ => rfl, fun _ some_layer => absurd rfl some_layer, fun _ => rfl⟩
  have widths : ∀ sizes ∈ own.arch.hidden, sizes.act ≠ 0 ∧ sizes.prop ≠ 0 := by
    rw [blind]
    simp
  have accepted := (Snapshot.exists_restore_ofWeights_iff shaped).2
    ⟨same.trans same'.symm, widths, alike⟩
  obtain ⟨restored, ran⟩ := (WeightStore.ofWeights own).exists_restore_iff.2 accepted
  refine ⟨drawn, .ofWeights own, restored, allocated, ?_, ran, ?_⟩
  · rw [WeightStore.allocate, made]
    rfl
  · intro equal
    have flags := congrArg Architecture.skip (sees.symm.trans (equal.trans blind))
    cases flags

end WalkDomain

end SchemaNet
