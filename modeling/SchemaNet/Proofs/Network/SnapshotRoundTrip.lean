import SchemaNet.Proofs.Network.BlockNames
import SchemaNet.Proofs.Network.Provenance

/-!
A snapshot keeps everything: weights of the right shapes come back from their snapshot as
they were. The blocks lie in the snapshot in the order of their names. As no two keys share a
name, every key finds its own block when they are taken out, and none is left at the end.
-/

namespace SchemaNet

/-! ## Blocks under names -/

namespace NamedBlocks

variable {α : Type} {blocks : NamedBlocks α} {name : String} {block : WeightBlock α}

theorem put_perm {entries : List (String × WeightBlock α)} (fresh : name ∉ entries.map (·.1)) :
    (put name block entries).Perm ((name, block) :: entries) := by
  induction entries with
  | nil => exact .refl _
  | cons head rest ih =>
    rw [List.map_cons, List.mem_cons, not_or] at fresh
    unfold put
    split
    · exact .refl _
    · split
      · exact ((ih fresh.2).cons head).trans (.swap _ _ rest)
      · next notBefore notAfter =>
        exact absurd (String.le_antisymm (String.not_lt.1 notAfter) (String.not_lt.1 notBefore))
          fresh.1

theorem foldl_insert_perm (more : List (String × WeightBlock α)) (blocks : NamedBlocks α)
    (distinct : ((more ++ blocks.entries).map (·.1)).Nodup) :
    (more.foldl (fun blocks (name, block) => blocks.insert name block) blocks).entries.Perm
      (more ++ blocks.entries) := by
  induction more generalizing blocks with
  | nil => exact .refl _
  | cons head rest ih =>
    obtain ⟨name, block⟩ := head
    rw [List.cons_append, List.map_cons, List.nodup_cons] at distinct
    have fresh : name ∉ blocks.entries.map (·.1) := fun mem =>
      distinct.1 (by rw [List.map_append]; exact List.mem_append_right _ mem)
    have added : (rest ++ (blocks.insert name block).entries).Perm
        ((name, block) :: (rest ++ blocks.entries)) :=
      ((put_perm fresh).append_left rest).trans List.perm_middle
    refine (ih (blocks.insert name block) ?_).trans added
    rw [(added.map _).nodup_iff, List.map_cons, List.nodup_cons]
    exact distinct

/-- Blocks under different names are all kept. -/
theorem ofList_perm {entries : List (String × WeightBlock α)}
    (distinct : (entries.map (·.1)).Nodup) : (ofList entries).entries.Perm entries := by
  have kept := foldl_insert_perm entries (empty : NamedBlocks α)
  rw [show (empty : NamedBlocks α).entries = [] from rfl, List.append_nil] at kept
  exact kept distinct

theorem find?_of_mem (h : (name, block) ∈ blocks.entries) : blocks.find? name = some block := by
  obtain ⟨before, after, split⟩ := List.append_of_mem h
  refine List.lookup_eq_some_iff.2 ⟨before, after, split, fun entry mem => ?_⟩
  have sorted := blocks.sorted
  rw [split, List.pairwise_append] at sorted
  have less := sorted.2.2 entry mem _ List.mem_cons_self
  exact bne_iff_ne.2 (String.ne_of_lt less).symm

theorem erase_perm {rest : List (String × WeightBlock α)} (fresh : name ∉ rest.map (·.1))
    (held : blocks.entries.Perm ((name, block) :: rest)) :
    (blocks.erase name).entries.Perm rest := by
  refine (held.filter _).trans (.of_eq ?_)
  rw [List.filter_cons_of_neg (by simp), List.filter_eq_self]
  intro entry mem
  exact decide_eq_true fun same => fresh (same ▸ List.mem_map_of_mem mem)

end NamedBlocks

/-! ## The blocks of weights -/

namespace Weights

variable {α : Type} {weights : Weights α}

/-- A named block belongs to a key. -/
def NamedFor (domain : Domain) (arch : Architecture) (entry : BlockKey × WeightBlock α)
    (pair : String × WeightBlock α) : Prop :=
  (entry.1.name domain arch : Except (NetworkError α) String) = .ok pair.1 ∧ entry.2 = pair.2

theorem named_entries (weights : Weights α) :
    List.Forall₂ (NamedFor weights.domain weights.arch) weights.entries weights.named := by
  refine (forall₂_filterMap fun (key, block) mem => ?_).imp fun (key, block) pair h => ?_
  · obtain ⟨name, named⟩ : ∃ name, weights.nameOf key = .ok name :=
      BlockKey.exists_name (List.of_mem_zip mem).1
    exact ⟨(name, block), by dsimp only; rw [named]⟩
  · dsimp only at h
    cases named : weights.nameOf key with
    | ok name =>
      rw [named] at h
      obtain rfl := Option.some.inj h
      exact ⟨named, rfl⟩
    | error fault =>
      rw [named] at h
      cases h

theorem entries_keys (weights : Weights α) : weights.entries.map (·.1) = weights.keys :=
  List.map_fst_zip (Nat.le_of_eq weights.aligned.symm)

theorem entries_blocks (weights : Weights α) : weights.entries.map (·.2) = weights.blocks :=
  List.map_snd_zip (Nat.le_of_eq weights.aligned)

theorem get?_of_mem_entries {entry : BlockKey × WeightBlock α} (h : entry ∈ weights.entries) :
    weights.get? entry.1 = some entry.2 := by
  obtain ⟨i, read⟩ := List.getElem?_of_mem h
  obtain ⟨key, block⟩ := List.getElem?_zip_eq_some.1 read
  rw [get?, BlockKey.position?_of_getElem? key, Option.bind_some, block]

theorem named_blocks (weights : Weights α) : weights.named.map (·.2) = weights.blocks := by
  have same : List.Forall₂ (fun entry pair => entry.2 = pair.2) weights.entries weights.named :=
    weights.named_entries.imp fun _ _ h => h.2
  rw [← entries_blocks, eq_comm, ← List.forall₂_eq_eq_eq, List.forall₂_map_left_iff,
    List.forall₂_map_right_iff]
  exact same

theorem names_nodup (weights : Weights α) : (weights.named.map (·.1)).Nodup := by
  have distinct : (weights.entries.map (·.1)).Nodup := by
    rw [entries_keys]
    exact BlockKey.all_nodup _ _
  have names : List.Forall₂ (fun (key : BlockKey) name =>
      (key.name weights.domain weights.arch : Except (NetworkError α) String) = .ok name)
      (weights.entries.map (·.1)) (weights.named.map (·.1)) := by
    rw [List.forall₂_map_left_iff, List.forall₂_map_right_iff]
    exact weights.named_entries.imp fun _ _ h => h.1
  refine nodup_of_forall₂ (fun _ _ _ own other => ?_) names distinct
  exact BlockKey.name_inj own other

theorem eq_of_blocks {blocks : List (WeightBlock α)} (aligned : blocks.length = weights.keys.length)
    (h : blocks = weights.blocks) : ⟨weights.domain, weights.arch, blocks, aligned⟩ = weights := by
  subst h
  rfl

variable {σ β : Type} {before between after : σ} {domain : Domain} {arch : Architecture}

theorem run_collect_cons {f : BlockKey → Stateful α σ β} {key : BlockKey} {rest : List BlockKey}
    {first : β} {others : { results : List β // results.length = rest.length }}
    (h : (f key).run.run before = (.ok first, between))
    (later : (collect f rest).run.run between = (.ok others, after)) :
    (collect f (key :: rest)).run.run before =
      (.ok ⟨first :: others.1, congrArg Nat.succ others.2⟩, after) := by
  rw [collect_cons, Stateful.run_bind_ok h, Stateful.run_bind_ok later]
  rfl

/-- The block of a key, made from its shape. -/
def ofShape (domain : Domain) (arch : Architecture)
    (make : BlockKey → Nat × Nat → Stateful α σ (WeightBlock α)) (key : BlockKey) :
    Stateful α σ (WeightBlock α) := do
  make key (← Stateful.ofExcept (key.shape domain arch))

theorem run_ofShape {make : BlockKey → Nat × Nat → Stateful α σ (WeightBlock α)} {key : BlockKey}
    {shape : Nat × Nat}
    (h : (key.shape domain arch : Except (NetworkError α) (Nat × Nat)) = .ok shape) :
    (ofShape domain arch make key).run.run before = (make key shape).run.run before := by
  rw [ofShape, h, Stateful.run_bind_ok Stateful.run_ofExcept]

/-- The blocks are made one by one, if the architecture and the domain are valid. -/
theorem run_build {make : BlockKey → Nat × Nat → Stateful α σ (WeightBlock α)}
    (arch_valid : (arch.validate : Except (NetworkError α) Unit) = .ok ())
    (domain_valid : domain.validate = .ok ())
    {blocks : { own : List (WeightBlock α) // own.length = (BlockKey.all domain arch).length }}
    (ran : (collect (ofShape domain arch make) (BlockKey.all domain arch)).run.run before =
      (.ok blocks, after)) :
    (build domain arch make).run.run before = (.ok ⟨domain, arch, blocks.1, blocks.2⟩, after) := by
  have checked : domain.validate.mapError .planning = (.ok () : Except (NetworkError α) Unit) :=
    mapError_eq_ok.2 domain_valid
  unfold build
  rw [arch_valid, Stateful.run_bind_ok Stateful.run_ofExcept, checked,
    Stateful.run_bind_ok Stateful.run_ofExcept]
  exact Stateful.run_bind_ok ran _

end Weights

namespace Snapshot

variable {α : Type} {domain : Domain} {arch : Architecture}

theorem run_takeBlock {key : BlockKey} {shape : Nat × Nat} {name : String} {block : WeightBlock α}
    {remaining : NamedBlocks α}
    (named : (key.name domain arch : Except (NetworkError α) String) = .ok name)
    (found : remaining.find? name = some block) (dims : block.dims = [shape.1, shape.2, shape.2]) :
    (takeBlock domain arch key shape).run.run remaining = (.ok block, remaining.erase name) := by
  unfold takeBlock
  rw [named, Stateful.run_bind_ok Stateful.run_ofExcept, Stateful.run_bind_get, found]
  dsimp only
  rw [Stateful.run_bind_set, dims, if_neg (not_not.2 rfl)]
  rfl

/-- A named block is the one that a snapshot should hold for a key. -/
structure Belongs (domain : Domain) (arch : Architecture) (key : BlockKey)
    (pair : String × WeightBlock α) : Prop where
  named : (key.name domain arch : Except (NetworkError α) String) = .ok pair.1
  shaped : Weights.Shapes domain arch key pair.2

/-- Every key takes its own block, and nothing is left when all have. -/
theorem run_collect_takeBlock {keys : List BlockKey} {pairs : List (String × WeightBlock α)}
    (own : List.Forall₂ (Belongs domain arch) keys pairs) (distinct : (pairs.map (·.1)).Nodup)
    {remaining : NamedBlocks α}
    (held : remaining.entries.Perm pairs) :
    ∃ results left,
      (Weights.collect (Weights.ofShape domain arch (takeBlock domain arch)) keys).run.run
          remaining = (.ok results, left) ∧
        results.1 = pairs.map (·.2) ∧ left.entries = [] := by
  induction own generalizing remaining with
  | nil => exact ⟨_, remaining, rfl, rfl, held.eq_nil⟩
  | @cons key pair keys pairs first _ ih =>
    -- what is left for the later keys is again a permutation of their pairs
    obtain ⟨named, shape, biased⟩ := first
    rw [List.map_cons, List.nodup_cons] at distinct
    have found : remaining.find? pair.1 = some pair.2 :=
      NamedBlocks.find?_of_mem (held.mem_iff.2 List.mem_cons_self)
    have taken := (Weights.run_ofShape shape).trans
      (run_takeBlock named found (by rw [WeightBlock.dims, biased]))
    obtain ⟨results, left, ran, blocks, empty⟩ :=
      ih distinct.2 (NamedBlocks.erase_perm distinct.1 held)
    exact ⟨_, left, Weights.run_collect_cons taken ran, congrArg (pair.2 :: ·) blocks, empty⟩

/-- Weights come back from their snapshot as they were. -/
theorem restore_ofWeights {weights : Weights α} (shaped : weights.WellShaped) :
    (ofWeights weights).restore weights.domain weights.arch = .ok weights := by
  have own : List.Forall₂ (Belongs weights.domain weights.arch) weights.keys weights.named := by
    rw [← weights.entries_keys, List.forall₂_map_left_iff]
    refine forall₂_imp_mem weights.named_entries fun entry mem pair h => ⟨h.1, ?_⟩
    rw [← h.2]
    exact shaped.shaped _ _ (Weights.get?_of_mem_entries mem)
  obtain ⟨results, left, ran, blocks, empty⟩ :=
    run_collect_takeBlock own weights.names_nodup (NamedBlocks.ofList_perm weights.names_nodup)
  have built := Weights.run_build shaped.arch_valid shaped.domain_valid ran
  rw [Weights.eq_of_blocks results.2 (blocks.trans weights.named_blocks)] at built
  have none_left : left.names = [] := by rw [NamedBlocks.names, empty, List.map_nil]
  have equal : ¬(ofWeights weights).domain ≠ weights.domain := not_not.2 rfl
  unfold restore
  dsimp only
  rw [if_neg equal]
  replace built : (Weights.build weights.domain weights.arch
      (takeBlock weights.domain weights.arch)).run (ofWeights weights).blocks =
        (.ok weights, left) := built
  rw [built]
  dsimp only
  rw [none_left]
  rfl

end Snapshot

end SchemaNet
