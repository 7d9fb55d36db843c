import SchemaNet.Proofs.Network.SnapshotRoundTrip
import SchemaNet.Proofs.Network.WalkDomain

/-!
Which snapshots are accepted: those of the domain itself, with valid widths and slots, whose
names are the names of the keys and whose blocks have the shapes of their keys. What is restored
is what lies in the snapshot, so the weights give the same blocks back.
-/

namespace SchemaNet
open Memory (bind_eq_ok)

/-! ## Blocks under names -/

namespace NamedBlocks

variable {α : Type} {blocks : NamedBlocks α} {name : String} {block : WeightBlock α}

/-- As the names increase, blocks are determined by what they hold. -/
theorem eq_of_perm {other : NamedBlocks α} (h : blocks.entries.Perm other.entries) :
    blocks = other := by
  have same : blocks.entries = other.entries :=
    h.eq_of_pairwise (fun _ _ _ _ before after => absurd after (String.lt_asymm before))
      blocks.sorted other.sorted
  cases blocks
  cases other
  cases same
  rfl

theorem names_nodup (blocks : NamedBlocks α) : blocks.names.Nodup :=
  List.pairwise_map.2 (blocks.sorted.imp fun before => String.ne_of_lt before)

theorem find?_eq_some : blocks.find? name = some block ↔ (name, block) ∈ blocks.entries := by
  refine ⟨fun h => ?_, find?_of_mem⟩
  obtain ⟨before, after, split, -⟩ := List.lookup_eq_some_iff.1 h
  rw [split]
  exact List.mem_append_right _ List.mem_cons_self

theorem mem_names : name ∈ blocks.names ↔ ∃ block, blocks.find? name = some block := by
  simp [names, find?_eq_some]

/-- A block that is found, and those that are left when it is taken out. -/
theorem perm_erase (h : blocks.find? name = some block) :
    blocks.entries.Perm ((name, block) :: (blocks.erase name).entries) := by
  obtain ⟨before, after, split⟩ := List.append_of_mem (find?_eq_some.1 h)
  have held : blocks.entries.Perm ((name, block) :: (before ++ after)) := by
    rw [split]
    exact List.perm_middle
  have distinct : (((name, block) :: (before ++ after)).map (·.1)).Nodup :=
    (held.map _).nodup_iff.1 blocks.names_nodup
  exact held.trans ((erase_perm (List.nodup_cons.1 distinct).1 held).symm.cons _)

end NamedBlocks

/-! ## A valid architecture -/

theorem Architecture.validate_eq_ok {α : Type} {arch : Architecture} :
    (arch.validate : Except (NetworkError α) Unit) = .ok () ↔
      ∀ sizes ∈ arch.hidden, sizes.act ≠ 0 ∧ sizes.prop ≠ 0 := by
  have check : (arch.validate : Except (NetworkError α) Unit) = .ok () ↔
      (arch.hidden.zipIdx.find? fun entry => entry.1.act == 0 || entry.1.prop == 0) = none := by
    unfold Architecture.validate
    split
    · next found => exact ⟨(fun h => nomatch h), fun none => nomatch found.symm.trans none⟩
    · next none => exact ⟨fun _ => none, fun _ => rfl⟩
  rw [check, List.find?_eq_none]
  constructor
  · intro h sizes mem
    obtain ⟨i, place⟩ := List.getElem?_of_mem mem
    simpa using h (sizes, i) (List.mk_mem_zipIdx_iff_getElem?.2 place)
  · rintro h ⟨sizes, i⟩ mem
    simpa using h sizes (List.mem_of_getElem? (List.mk_mem_zipIdx_iff_getElem?.1 mem))

/-! ## Taking the blocks out -/

namespace Weights

variable {α σ : Type} {domain : Domain} {arch : Architecture} {before after : σ}

/-- Weights are built from a valid architecture and domain, key by key. -/
theorem run_build_eq_ok {make : BlockKey → Nat × Nat → Stateful α σ (WeightBlock α)}
    {weights : Weights α} (ran : (build domain arch make).run.run before = (.ok weights, after)) :
    (arch.validate : Except (NetworkError α) Unit) = .ok () ∧ domain.validate = .ok () ∧
      ∃ blocks, (collect (ofShape domain arch make) (BlockKey.all domain arch)).run.run before =
          (.ok blocks, after) ∧
        ⟨domain, arch, blocks.1, blocks.2⟩ = weights := by
  obtain ⟨_, _, archChecked, ran⟩ := Stateful.run_bind_eq_ok.1 ran
  obtain ⟨archValid, rfl⟩ := Stateful.run_ofExcept_eq_ok.1 archChecked
  obtain ⟨_, _, domainChecked, ran⟩ := Stateful.run_bind_eq_ok.1 ran
  obtain ⟨domainValid, rfl⟩ := Stateful.run_ofExcept_eq_ok.1 domainChecked
  obtain ⟨blocks, last, collected, ran⟩ := Stateful.run_bind_eq_ok.1 ran
  obtain ⟨same, rfl⟩ := Prod.mk.inj ran
  exact ⟨archValid, mapError_eq_ok.1 domainValid, blocks, collected, Except.ok.inj same⟩

end Weights

namespace Snapshot

variable {α : Type} {domain : Domain} {arch : Architecture} {snapshot : Snapshot α}

theorem run_takeBlock_eq_ok {key : BlockKey} {block : WeightBlock α}
    {remaining left : NamedBlocks α}
    (ran : (Weights.ofShape domain arch (takeBlock domain arch) key).run.run remaining =
      (.ok block, left)) :
    ∃ name, Belongs domain arch key (name, block) ∧ remaining.find? name = some block ∧
      left = remaining.erase name := by
  obtain ⟨shape, _, shaped, ran⟩ := Stateful.run_bind_eq_ok.1 ran
  obtain ⟨hshape, rfl⟩ := Stateful.run_ofExcept_eq_ok.1 shaped
  obtain ⟨name, _, named, ran⟩ := Stateful.run_bind_eq_ok.1 ran
  obtain ⟨hname, rfl⟩ := Stateful.run_ofExcept_eq_ok.1 named
  rw [Stateful.run_bind_get] at ran
  cases found : remaining.find? name with
  | none =>
    rw [found] at ran
    cases (Prod.mk.inj ran).1
  | some own =>
    rw [found] at ran
    dsimp only at ran
    rw [Stateful.run_bind_set] at ran
    split at ran
    · obtain ⟨_, _, refused, _⟩ := Stateful.run_bind_eq_ok.1 ran
      cases (Prod.mk.inj refused).1
    · next fits =>
      obtain ⟨same, rfl⟩ := Prod.mk.inj ran
      obtain rfl := Except.ok.inj same
      exact ⟨name, ⟨hname, Weights.shapes_of_dims hshape (not_not.1 fits)⟩, found, rfl⟩

/-- Every key has taken its own block out, and the others are left. -/
theorem pairs_of_collect {keys : List BlockKey} {remaining left : NamedBlocks α}
    {results : { blocks : List (WeightBlock α) // blocks.length = keys.length }}
    (ran : (Weights.collect (Weights.ofShape domain arch (takeBlock domain arch)) keys).run.run
      remaining = (.ok results, left)) :
    ∃ pairs, List.Forall₂ (Belongs domain arch) keys pairs ∧ results.1 = pairs.map (·.2) ∧
      remaining.entries.Perm (pairs ++ left.entries) := by
  induction keys generalizing remaining with
  | nil =>
    obtain ⟨none, rfl⟩ := Prod.mk.inj ran
    rw [← Except.ok.inj none]
    exact ⟨[], .nil, rfl, .refl _⟩
  | cons key rest ih =>
    obtain ⟨block, between, first, ran⟩ := Stateful.run_bind_eq_ok.1 ran
    obtain ⟨others, last, later, ran⟩ := Stateful.run_bind_eq_ok.1 ran
    obtain ⟨all, rfl⟩ := Prod.mk.inj ran
    obtain ⟨name, own, found, rfl⟩ := run_takeBlock_eq_ok first
    obtain ⟨pairs, belong, blocks, held⟩ := ih later
    refine ⟨(name, block) :: pairs, .cons own belong, ?_, ?_⟩
    · rw [← Except.ok.inj all, List.map_cons, ← blocks]
    · exact (NamedBlocks.perm_erase found).trans (held.cons _)

theorem names_nodup_of_belongs {keys : List BlockKey} {pairs : List (String × WeightBlock α)}
    (belong : List.Forall₂ (Belongs domain arch) keys pairs) (distinct : keys.Nodup) :
    (pairs.map (·.1)).Nodup := by
  have named : List.Forall₂ (fun (key : BlockKey) name =>
      (key.name domain arch : Except (NetworkError α) String) = .ok name) keys
      (pairs.map (·.1)) :=
    List.forall₂_map_right_iff.2 (belong.imp fun _ _ own => own.named)
  refine nodup_of_forall₂ (fun _ _ _ own other => ?_) named distinct
  exact BlockKey.name_inj own other

/-- A snapshot is restored if its blocks are those of the keys, and the weights hold them. -/
theorem restore_eq_ok_iff {weights : Weights α} :
    snapshot.restore domain arch = .ok weights ↔
      snapshot.domain = domain ∧ (arch.validate : Except (NetworkError α) Unit) = .ok () ∧
        domain.validate = .ok () ∧ ∃ pairs : List (String × WeightBlock α),
          List.Forall₂ (Belongs domain arch) (BlockKey.all domain arch) pairs ∧
            snapshot.blocks.entries.Perm pairs ∧
              ∃ aligned, ⟨domain, arch, pairs.map (·.2), aligned⟩ = weights := by
  constructor
  · intro restored
    unfold restore at restored
    dsimp only at restored
    split at restored
    · cases restored
    · next same =>
      rcases ran : (Weights.build domain arch (takeBlock domain arch)).run snapshot.blocks with
        ⟨fault | built, left⟩
      · rw [ran] at restored
        cases restored
      · rw [ran] at restored
        dsimp only at restored
        split at restored
        · next empty =>
          obtain rfl := Except.ok.inj restored
          obtain ⟨archValid, domainValid, results, collected, rfl⟩ := Weights.run_build_eq_ok ran
          obtain ⟨pairs, belong, blocks, held⟩ := pairs_of_collect collected
          rw [List.map_eq_nil_iff.1 empty, List.append_nil] at held
          exact ⟨not_not.1 same, archValid, domainValid, pairs, belong, held,
            blocks ▸ results.2, by simp only [blocks]⟩
        · cases restored
  · rintro ⟨rfl, archValid, domainValid, pairs, belong, held, aligned, rfl⟩
    have distinct := names_nodup_of_belongs belong (BlockKey.all_nodup _ _)
    obtain ⟨results, left, ran, blocks, empty⟩ := run_collect_takeBlock belong distinct held
    have built := Weights.run_build archValid domainValid ran
    have none_left : left.names = [] := by rw [NamedBlocks.names, empty, List.map_nil]
    unfold restore
    dsimp only
    rw [if_neg (not_not.2 rfl)]
    replace built : (Weights.build snapshot.domain arch (takeBlock snapshot.domain arch)).run
        snapshot.blocks = (.ok ⟨snapshot.domain, arch, results.1, results.2⟩, left) := built
    rw [built]
    dsimp only
    rw [none_left]
    simp only [blocks]
    rfl

/-! ## What is accepted -/

/-- A snapshot of a domain with valid widths and slots, whose blocks are those of the keys: they
have the names of the keys, and each one has the shape of its key. -/
structure Matches (snapshot : Snapshot α) (domain : Domain) (arch : Architecture) : Prop where
  domain_eq : snapshot.domain = domain
  widths : ∀ sizes ∈ arch.hidden, sizes.act ≠ 0 ∧ sizes.prop ≠ 0
  slots : ∀ pred ∈ domain.predicates, ∃ schema ∈ domain.schemas, ∃ atom ∈ schema.relevant,
    atom.predicate = pred
  names : ∀ name, name ∈ snapshot.blocks.names ↔ ∃ key ∈ BlockKey.all domain arch,
    (key.name domain arch : Except (NetworkError α) String) = .ok name
  shapes : ∀ key ∈ BlockKey.all domain arch, ∀ name block,
    (key.name domain arch : Except (NetworkError α) String) = .ok name →
      snapshot.blocks.find? name = some block →
        ∃ shape, (key.shape domain arch : Except (NetworkError α) (Nat × Nat)) = .ok shape ∧
          block.w.dims = [shape.1, shape.2] ∧ block.b.length = shape.2

theorem exists_shape_iff {key : BlockKey} {block : WeightBlock α} :
    (∃ shape, (key.shape domain arch : Except (NetworkError α) (Nat × Nat)) = .ok shape ∧
        block.w.dims = [shape.1, shape.2] ∧ block.b.length = shape.2) ↔
      Weights.Shapes domain arch key block := by
  constructor
  · rintro ⟨shape, hshape, dims, biased⟩
    refine Weights.shapes_of_dims hshape ?_
    show block.w.dims ++ [block.b.length] = _
    rw [dims, biased]
    rfl
  · rintro ⟨hshape, biased⟩
    exact ⟨_, hshape, rfl, biased⟩

/-- The blocks of a snapshot that matches, in the order of their keys. -/
theorem Matches.exists_pairs (matched : snapshot.Matches domain arch) :
    ∃ pairs, List.Forall₂ (Belongs domain arch) (BlockKey.all domain arch) pairs ∧
      snapshot.blocks.entries.Perm pairs := by
  have each : ∀ key ∈ BlockKey.all domain arch, ∃ pair : String × WeightBlock α,
      Belongs domain arch key pair ∧ pair ∈ snapshot.blocks.entries := by
    intro key mem
    obtain ⟨name, named⟩ := BlockKey.exists_name (α := α) mem
    obtain ⟨block, found⟩ := NamedBlocks.mem_names.1 ((matched.names name).2 ⟨key, mem, named⟩)
    have shaped := exists_shape_iff.1 (matched.shapes key mem name block named found)
    exact ⟨(name, block), ⟨named, shaped⟩, NamedBlocks.find?_eq_some.1 found⟩
  obtain ⟨pairs, own⟩ := exists_forall₂ each
  have belong := own.imp fun _ _ h => h.1
  have distinct := (names_nodup_of_belongs belong (BlockKey.all_nodup _ _)).of_map
  have inside : ∀ pair ∈ pairs, pair ∈ snapshot.blocks.entries := by
    intro pair mem
    obtain ⟨key, -, h⟩ := forall₂_mem_right own mem
    exact h.2
  refine ⟨pairs, belong, (List.perm_ext_iff_of_nodup ?_ distinct).2 fun pair => ⟨?_, inside pair⟩⟩
  · exact snapshot.blocks.names_nodup.of_map
  · -- an entry has the name of some key, and the pair of that key is under this name
    intro mem
    obtain ⟨key, hkey, named⟩ := (matched.names pair.1).1 (List.mem_map_of_mem mem)
    obtain ⟨other, hother, own, held⟩ := forall₂_mem_left own hkey
    have same : other.1 = pair.1 := Except.ok.inj (own.named.symm.trans named)
    rwa [List.inj_on_of_nodup_map snapshot.blocks.names_nodup held mem same] at hother

theorem Matches.of_pairs {pairs : List (String × WeightBlock α)}
    (same : snapshot.domain = domain)
    (arch_valid : (arch.validate : Except (NetworkError α) Unit) = .ok ())
    (domain_valid : domain.validate = .ok ())
    (belong : List.Forall₂ (Belongs domain arch) (BlockKey.all domain arch) pairs)
    (held : snapshot.blocks.entries.Perm pairs) : snapshot.Matches domain arch where
  domain_eq := same
  widths := Architecture.validate_eq_ok.1 arch_valid
  slots := Domain.validate_eq_ok.1 domain_valid
  names name := by
    constructor
    · intro mem
      obtain ⟨pair, hpair, rfl⟩ := List.mem_map.1 mem
      obtain ⟨key, hkey, own⟩ := forall₂_mem_right belong (held.mem_iff.1 hpair)
      exact ⟨key, hkey, own.named⟩
    · rintro ⟨key, hkey, named⟩
      obtain ⟨pair, hpair, own⟩ := forall₂_mem_left belong hkey
      obtain rfl := Except.ok.inj (own.named.symm.trans named)
      exact List.mem_map_of_mem (held.mem_iff.2 hpair)
  shapes key hkey name block named found := by
    obtain ⟨pair, hpair, own⟩ := forall₂_mem_left belong hkey
    obtain rfl := Except.ok.inj (own.named.symm.trans named)
    have other := NamedBlocks.find?_of_mem (held.mem_iff.2 hpair)
    obtain rfl := Option.some.inj (other.symm.trans found)
    exact exists_shape_iff.2 own.shaped

theorem exists_restore_iff :
    (∃ weights, snapshot.restore domain arch = .ok weights) ↔ snapshot.Matches domain arch := by
  constructor
  · rintro ⟨weights, restored⟩
    obtain ⟨same, archValid, domainValid, pairs, belong, held, -⟩ := restore_eq_ok_iff.1 restored
    exact .of_pairs same archValid domainValid belong held
  · intro matched
    obtain ⟨pairs, belong, held⟩ := matched.exists_pairs
    have aligned : (pairs.map (·.2)).length = (BlockKey.all domain arch).length := by
      rw [List.length_map, belong.length_eq]
    exact ⟨_, restore_eq_ok_iff.2 ⟨matched.domain_eq, Architecture.validate_eq_ok.2 matched.widths,
      Domain.validate_eq_ok.2 matched.slots, pairs, belong, held, aligned, rfl⟩⟩

/-! ## What is restored -/

variable {weights : Weights α}

theorem namedFor_of_belongs {keys : List BlockKey} {pairs : List (String × WeightBlock α)}
    (belong : List.Forall₂ (Belongs domain arch) keys pairs) :
    List.Forall₂ (Weights.NamedFor domain arch) (keys.zip (pairs.map (·.2))) pairs := by
  induction belong with
  | nil => exact .nil
  | cons own _ ih => exact .cons ⟨own.named, rfl⟩ ih

/-- The blocks of restored weights under their names are those of the snapshot. -/
theorem named_perm_of_restore (restored : snapshot.restore domain arch = .ok weights) :
    snapshot.blocks.entries.Perm weights.named := by
  obtain ⟨-, -, -, pairs, belong, held, aligned, rfl⟩ := restore_eq_ok_iff.1 restored
  have determined : Relator.RightUnique (Weights.NamedFor (α := α) domain arch) :=
    fun _ _ _ own other => Prod.ext (Except.ok.inj (own.1.symm.trans other.1))
      (own.2.symm.trans other.2)
  have named := Weights.named_entries ⟨domain, arch, pairs.map (·.2), aligned⟩
  rwa [determined.forall₂ (namedFor_of_belongs belong) named] at held

theorem blocks_of_restore (restored : snapshot.restore domain arch = .ok weights) :
    (ofWeights weights).blocks = snapshot.blocks :=
  NamedBlocks.eq_of_perm
    ((NamedBlocks.ofList_perm weights.names_nodup).trans (named_perm_of_restore restored).symm)

theorem get?_of_restore (restored : snapshot.restore domain arch = .ok weights) {key : BlockKey}
    (hkey : key ∈ weights.keys) :
    ∃ name block, weights.nameOf key = .ok name ∧ snapshot.blocks.find? name = some block ∧
      weights.get? key = some block := by
  rw [← weights.entries_keys] at hkey
  obtain ⟨entry, mem, rfl⟩ := List.mem_map.1 hkey
  obtain ⟨pair, hpair, named, same⟩ := forall₂_mem_left weights.named_entries mem
  have held := (named_perm_of_restore restored).mem_iff.2 hpair
  refine ⟨pair.1, pair.2, named, NamedBlocks.find?_of_mem held, ?_⟩
  rw [Weights.get?_of_mem_entries mem, same]

/-- Exactly the snapshots that match are accepted. Restored weights hold for each key the block
under its name, and restoring and taking a snapshot undo each other. -/
theorem restore_accepts_matching (snapshot : Snapshot α) (domain : Domain) (arch : Architecture) :
    ((∃ weights, snapshot.restore domain arch = .ok weights) ↔ snapshot.Matches domain arch) ∧
      (∀ weights, snapshot.restore domain arch = .ok weights →
        weights.domain = domain ∧ weights.arch = arch ∧
          (∀ key ∈ BlockKey.all domain arch, ∃ name block,
            (key.name domain arch : Except (NetworkError α) String) = .ok name ∧
              snapshot.blocks.find? name = some block ∧ weights.get? key = some block) ∧
          (ofWeights weights).blocks = snapshot.blocks) ∧
      (∀ weights : Weights α, weights.WellShaped →
        (ofWeights weights).restore weights.domain weights.arch = .ok weights) ∧
      ∀ weights, snapshot.weights = .ok weights → ofWeights weights = snapshot := by
  refine ⟨exists_restore_iff, fun weights restored => ?_, fun weights shaped =>
    restore_ofWeights shaped, fun weights restored => ?_⟩
  · obtain ⟨rfl, rfl, -⟩ := restore_wellShaped restored
    exact ⟨rfl, rfl, fun key hkey => get?_of_restore restored hkey, blocks_of_restore restored⟩
  · obtain ⟨same, sameArch, -⟩ := restore_wellShaped restored
    have blocks := blocks_of_restore restored
    obtain ⟨own, layers, held⟩ := snapshot
    rw [ofWeights, Snapshot.mk.injEq]
    exact ⟨same, sameArch, blocks⟩

end Snapshot

namespace WalkDomain

/-- The snapshot of the weights matches, and they come back from it. -/
theorem snapshot_accepted :
    weights.WellShaped ∧ (Snapshot.ofWeights weights).Matches domain arch ∧
      (Snapshot.ofWeights weights).restore domain arch = .ok weights := by
  obtain ⟨accepts, -, returns, -⟩ :=
    Snapshot.restore_accepts_matching (Snapshot.ofWeights weights) domain arch
  have restored : (Snapshot.ofWeights weights).restore domain arch = .ok weights :=
    returns weights weights_wellShaped
  exact ⟨weights_wellShaped, accepts.1 ⟨weights, restored⟩, restored⟩

end WalkDomain

end SchemaNet
