import SchemaNet.Proofs.Network.StoreInPlace
import SchemaNet.Proofs.Network.WalkDomain

/-!
Runs of a store: any sequence of updates, restorings and snapshots on a store that was
allocated. One lemma says what a call can do; what holds after every run follows from it by
induction on the calls.
-/

namespace SchemaNet

/-- What can be asked of a store. The function of an update has a state of its own. -/
inductive StoreCall (α : Type) : Type 1 where
  | update {σ : Type} (change : BlockKey → WeightBlock α → StateM σ (WeightBlock α)) (own : σ)
  | restore (snapshot : Snapshot α)
  | snapshot

inductive StoreReply (α : Type) where
  | changed
  | refused (fault : NetworkError α)
  | took (snapshot : Snapshot α)

namespace StoreReply

variable {α : Type}

def ofResult : Except (NetworkError α) Unit → StoreReply α
  | .ok () => .changed
  | .error fault => .refused fault

def isChanged : StoreReply α → Bool
  | .changed => true
  | .refused _ => false
  | .took _ => false

theorem ofResult_ne_took (result : Except (NetworkError α) Unit) (snapshot : Snapshot α) :
    ofResult result ≠ .took snapshot := by
  cases result <;> exact fun h => nomatch h

end StoreReply

namespace WeightStore

variable {α σ : Type}

/-- A call on a store in place: the reply, and what the call leaves behind. -/
def perform (store : WeightStore α) : StoreCall α → StoreReply α × WeightStore α
  | .update change own =>
    let ran := (updateInPlace change).run.run (store, own)
    (.ofResult ran.1, ran.2.1)
  | .restore snapshot =>
    let ran := (restoreInPlace snapshot).run.run (store, ())
    (.ofResult ran.1, ran.2.1)
  | .snapshot => (.took store.snapshot, store)

def after (store : WeightStore α) : List (StoreCall α) → WeightStore α
  | [] => store
  | call :: rest => (store.perform call).2.after rest

def replies (store : WeightStore α) : List (StoreCall α) → List (StoreReply α)
  | [] => []
  | call :: rest => (store.perform call).1 :: (store.perform call).2.replies rest

variable {store : WeightStore α} {own : σ}
  {change : BlockKey → WeightBlock α → StateM σ (WeightBlock α)}

/-! ## An update -/

/-- A block is changed if the function of the caller keeps its shape. -/
theorem updateBlock_eq_ok {weights : Weights α} {key : BlockKey} {changed : WeightBlock α}
    {last : σ} :
    (updateBlock weights change key).run.run own = (.ok changed, last) ↔
      ∃ block, weights.get? key = some block ∧ (change key block).run own = (changed, last) ∧
        changed.dims = block.dims := by
  constructor
  · intro ran
    obtain ⟨block, between, looked, ran⟩ := Stateful.run_bind_eq_ok.1 ran
    obtain ⟨found, rfl⟩ := Stateful.run_ofExcept_eq_ok.1 looked
    obtain ⟨new, after, called, ran⟩ := Stateful.run_bind_eq_ok.1 ran
    rw [Stateful.run_lift_eq_ok] at called
    refine ⟨block, Weights.block_eq_ok.1 found, ?_⟩
    dsimp only at ran
    split at ran
    · obtain ⟨name, _, _, refused⟩ := Stateful.run_bind_eq_ok.1 ran
      cases (Prod.mk.inj refused).1
    · next kept =>
      obtain ⟨same, rfl⟩ := Prod.mk.inj ran
      obtain rfl := Except.ok.inj same
      exact ⟨called, not_not.1 kept⟩
  · rintro ⟨block, found, called, kept⟩
    have looked : weights.block key = .ok block := Weights.block_eq_ok.2 found
    unfold updateBlock
    rw [looked, Stateful.run_bind_ok Stateful.run_ofExcept,
      Stateful.run_bind_ok (Stateful.run_lift_eq_ok.2 called)]
    dsimp only
    rw [if_neg (not_not.2 kept)]
    rfl

theorem run_mapM_cons {β γ : Type} {f : β → StateM σ γ} {x : β} {rest : List β} {y : γ}
    {ys : List γ} {before between last : σ} (first : (f x).run before = (y, between))
    (others : (rest.mapM f).run between = (ys, last)) :
    ((x :: rest).mapM f).run before = (y :: ys, last) := by
  rw [List.mapM_cons, StateT.run_bind, first]
  show (do let ran ← (rest.mapM f).run between; pure (y :: ran.1, ran.2) : Id _) = _
  rw [others]
  rfl

/-- No block loses its shape. -/
abbrev Kept (entries : List (BlockKey × WeightBlock α)) (blocks : List (WeightBlock α)) : Prop :=
  List.Forall₂ (fun entry block => block.dims = entry.2.dims) entries blocks

section Collect

variable {weights : Weights α} {entries : List (BlockKey × WeightBlock α)} {keys : List BlockKey}
  {last : σ}

/-- The function of the caller is called once for each key, in the order of the keys. -/
theorem collect_updateBlock_eq_ok (read : ∀ entry ∈ entries, weights.get? entry.1 = some entry.2)
    (own_keys : entries.map (·.1) = keys)
    {results : { blocks : List (WeightBlock α) // blocks.length = keys.length }}
    (ran : (Weights.collect (updateBlock weights change) keys).run.run own = (.ok results, last)) :
    (entries.mapM fun entry => change entry.1 entry.2).run own = (results.1, last) ∧
      Kept entries results.1 := by
  subst own_keys
  induction entries generalizing own with
  | nil =>
    obtain ⟨none, rfl⟩ := Prod.mk.inj ran
    rw [← Except.ok.inj none]
    exact ⟨rfl, .nil⟩
  | cons entry rest ih =>
    obtain ⟨changed, between, first, ran⟩ := Stateful.run_bind_eq_ok.1 ran
    obtain ⟨others, after, later, ran⟩ := Stateful.run_bind_eq_ok.1 ran
    obtain ⟨all, rfl⟩ := Prod.mk.inj ran
    obtain ⟨block, found, called, kept⟩ := updateBlock_eq_ok.1 first
    rw [List.forall_mem_cons] at read
    obtain rfl := Option.some.inj (read.1.symm.trans found)
    obtain ⟨calledRest, keptRest⟩ := ih read.2 later
    rw [← Except.ok.inj all]
    exact ⟨run_mapM_cons called calledRest, .cons kept keptRest⟩

theorem run_collect_updateBlock (read : ∀ entry ∈ entries, weights.get? entry.1 = some entry.2)
    (own_keys : entries.map (·.1) = keys)
    (kept : Kept entries ((entries.mapM fun entry => change entry.1 entry.2).run own).1) :
    ∃ results last,
      (Weights.collect (updateBlock weights change) keys).run.run own = (.ok results, last) := by
  subst own_keys
  induction entries generalizing own with
  | nil => exact ⟨_, own, rfl⟩
  | cons entry rest ih =>
    rcases called : (change entry.1 entry.2).run own with ⟨changed, between⟩
    rcases calledRest : (rest.mapM fun entry => change entry.1 entry.2).run between with
      ⟨others, last⟩
    have all : ((entry :: rest).mapM fun entry => change entry.1 entry.2).run own =
        (changed :: others, last) := run_mapM_cons called calledRest
    rw [all] at kept
    obtain ⟨keptFirst, keptRest⟩ := List.forall₂_cons.1 kept
    rw [List.forall_mem_cons] at read
    obtain ⟨results, after, ran⟩ := ih read.2 (by rw [calledRest]; exact keptRest)
    have first := updateBlock_eq_ok.2 ⟨entry.2, read.1, called, keptFirst⟩
    exact ⟨_, after, Weights.run_collect_cons first ran⟩

end Collect

theorem update_eq_ok {new : WeightStore α} {last : σ}
    (ran : (store.update change).run.run own = (.ok new, last)) :
    new.weights.domain = store.weights.domain ∧ new.weights.arch = store.weights.arch ∧
      new.version = store.version + 1 ∧
        (store.weights.entries.mapM fun entry => change entry.1 entry.2).run own =
            (new.weights.blocks, last) ∧
          Kept store.weights.entries new.weights.blocks := by
  obtain ⟨results, between, made, ran⟩ := Stateful.run_bind_eq_ok.1 ran
  obtain ⟨same, rfl⟩ := Prod.mk.inj ran
  obtain rfl := Except.ok.inj same
  have called := collect_updateBlock_eq_ok (fun _ => Weights.get?_of_mem_entries)
    store.weights.entries_keys made
  exact ⟨rfl, rfl, rfl, called⟩

theorem exists_update
    (kept : Kept store.weights.entries
      ((store.weights.entries.mapM fun entry => change entry.1 entry.2).run own).1) :
    ∃ new last, (store.update change).run.run own = (.ok new, last) := by
  obtain ⟨results, last, made⟩ := run_collect_updateBlock
    (fun _ => Weights.get?_of_mem_entries) store.weights.entries_keys kept
  exact ⟨_, last, (Stateful.run_bind_ok made _).trans rfl⟩

/-! ## A call -/

theorem perform_update_cases (store : WeightStore α)
    (change : BlockKey → WeightBlock α → StateM σ (WeightBlock α)) (own : σ) :
    (∃ fault last, store.perform (.update change own) = (.refused fault, store) ∧
        (store.update change).run.run own = (.error fault, last)) ∨
      ∃ new last, store.perform (.update change own) = (.changed, new) ∧
        (store.update change).run.run own = (.ok new, last) := by
  have settled := run_updateInPlace store change own
  rcases ran : (store.update change).run.run own with ⟨fault | new, last⟩
  · rw [ran] at settled
    exact .inl ⟨fault, last, by rw [perform, settled]; rfl, rfl⟩
  · rw [ran] at settled
    exact .inr ⟨new, last, by rw [perform, settled]; rfl, rfl⟩

theorem perform_restore_cases (store : WeightStore α) (snapshot : Snapshot α) :
    (∃ fault, store.perform (.restore snapshot) = (.refused fault, store) ∧
        snapshot.restore store.weights.domain store.weights.arch = .error fault) ∨
      ∃ weights, store.perform (.restore snapshot) = (.changed, ⟨weights, store.version + 1⟩) ∧
        snapshot.restore store.weights.domain store.weights.arch = .ok weights := by
  have settled := run_restoreInPlace store snapshot ()
  rw [restore] at settled
  cases restored : snapshot.restore store.weights.domain store.weights.arch with
  | error fault =>
    rw [restored] at settled
    exact .inl ⟨fault, by rw [perform, settled]; rfl, rfl⟩
  | ok weights =>
    rw [restored] at settled
    exact .inr ⟨weights, by rw [perform, settled]; rfl, rfl⟩

/-- A store of a domain and an architecture, with blocks of the right shapes. -/
structure Serves (store : WeightStore α) (domain : Domain) (arch : Architecture) : Prop where
  domain_eq : store.weights.domain = domain
  arch_eq : store.weights.arch = arch
  shaped : store.weights.WellShaped

variable {domain : Domain} {arch : Architecture}

/-- What a call can do: it is refused and nothing happens, it takes a snapshot, or it counts as
a change and leaves another store of the same domain and architecture. -/
theorem perform_cases (serves : store.Serves domain arch) (call : StoreCall α) :
    (∃ fault, store.perform call = (.refused fault, store)) ∨
      store.perform call = (.took store.snapshot, store) ∨
        ∃ new, store.perform call = (.changed, new) ∧ new.version = store.version + 1 ∧
          new.Serves domain arch := by
  obtain ⟨rfl, rfl, shaped⟩ := serves
  cases call with
  | update change own =>
    rcases perform_update_cases store change own with
      ⟨fault, _, refused, _⟩ | ⟨new, last, performed, ran⟩
    · exact .inl ⟨fault, refused⟩
    · obtain ⟨sameDomain, sameArch, kept⟩ := update_wellShaped shaped change own new last ran
      exact .inr (.inr ⟨new, performed, (update_eq_ok ran).2.2.1, sameDomain, sameArch, kept⟩)
  | restore snapshot =>
    rcases perform_restore_cases store snapshot with
      ⟨fault, refused, _⟩ | ⟨weights, performed, restored⟩
    · exact .inl ⟨fault, refused⟩
    · obtain ⟨sameDomain, sameArch, kept⟩ := Snapshot.restore_wellShaped restored
      exact .inr (.inr ⟨_, performed, rfl, sameDomain, sameArch, kept⟩)
  | snapshot => exact .inr (.inl rfl)

theorem perform_serves (serves : store.Serves domain arch) (call : StoreCall α) :
    (store.perform call).2.Serves domain arch := by
  rcases perform_cases serves call with ⟨_, refused⟩ | took | ⟨new, performed, _, kept⟩
  · rw [refused]
    exact serves
  · rw [took]
    exact serves
  · rw [performed]
    exact kept

/-! ## Runs -/

theorem after_serves (serves : store.Serves domain arch) (calls : List (StoreCall α)) :
    (store.after calls).Serves domain arch := by
  induction calls generalizing store with
  | nil => exact serves
  | cons call rest ih => exact ih (perform_serves serves call)

/-- The version counts the changes. -/
theorem after_version (serves : store.Serves domain arch) (calls : List (StoreCall α)) :
    (store.after calls).version =
      store.version + UInt64.ofNat ((store.replies calls).countP StoreReply.isChanged) := by
  induction calls generalizing store with
  | nil => exact (UInt64.add_zero _).symm
  | cons call rest ih =>
    rw [after, replies, List.countP_cons, ih (perform_serves serves call)]
    rcases perform_cases serves call with ⟨_, refused⟩ | took | ⟨new, performed, counted, _⟩
    · rw [refused]
      rfl
    · rw [took]
      rfl
    · rw [performed]
      dsimp only
      rw [counted, UInt64.ofNat_add, UInt64.add_assoc, UInt64.add_comm 1]
      rfl

theorem perform_took {call : StoreCall α} {snapshot : Snapshot α}
    (h : (store.perform call).1 = .took snapshot) : snapshot = store.snapshot := by
  cases call with
  | update change own => exact absurd h (StoreReply.ofResult_ne_took _ snapshot)
  | restore other => exact absurd h (StoreReply.ofResult_ne_took _ snapshot)
  | snapshot => exact (StoreReply.took.inj h).symm

/-- A reply with a snapshot holds the weights of that moment. -/
theorem replies_took {calls : List (StoreCall α)} {i : Nat} {snapshot : Snapshot α}
    (h : (store.replies calls)[i]? = some (.took snapshot)) :
    snapshot = (store.after (calls.take i)).snapshot := by
  induction calls generalizing store i with
  | nil => cases h
  | cons call rest ih =>
    cases i with
    | zero => exact perform_took (Option.some.inj h)
    | succ i => exact ih h

theorem perform_restore_snapshot {earlier : WeightStore α} (serves : store.Serves domain arch)
    (serves' : earlier.Serves domain arch) :
    store.perform (.restore earlier.snapshot) =
      (.changed, ⟨earlier.weights, store.version + 1⟩) := by
  have restored := Snapshot.restore_ofWeights serves'.shaped
  rw [serves'.domain_eq, serves'.arch_eq, ← serves.domain_eq, ← serves.arch_eq] at restored
  rcases perform_restore_cases store earlier.snapshot with
    ⟨fault, _, failed⟩ | ⟨weights, performed, own⟩
  · cases failed.symm.trans restored
  · obtain rfl := Except.ok.inj (own.symm.trans restored)
    exact performed

theorem allocate_serves [Scalar α] {seed : UInt64}
    (allocated : WeightStore.allocate domain arch seed = .ok store) :
    store.Serves domain arch ∧ store.version = 0 := by
  obtain ⟨weights, made, same⟩ := Memory.bind_eq_ok.1 allocated
  obtain rfl := Except.ok.inj same
  obtain ⟨domain_eq, arch_eq, shaped⟩ := Weights.allocate_wellShaped made
  exact ⟨⟨domain_eq, arch_eq, shaped⟩, rfl⟩

/-- What holds after the calls of a run, and of a next call. -/
structure Faithful (domain : Domain) (arch : Architecture) (initial : WeightStore α)
    (calls : List (StoreCall α)) : Prop where
  domain_eq : (initial.after calls).weights.domain = domain
  arch_eq : (initial.after calls).weights.arch = arch
  /-- Every key has a block of its shape. -/
  blocks : ∀ key ∈ (initial.after calls).weights.keys, ∃ shape block,
    (key.shape domain arch : Except (NetworkError α) (Nat × Nat)) = .ok shape ∧
      (initial.after calls).weights.get? key = some block ∧
        block.dims = [shape.1, shape.2, shape.2]
  /-- The version is the number of calls that made a change, as a 64-bit number. -/
  version_eq : (initial.after calls).version.toNat =
    (initial.replies calls).countP StoreReply.isChanged % UInt64.size
  /-- A call that is refused changes nothing. -/
  refused : ∀ call fault, ((initial.after calls).perform call).1 = .refused fault →
    ((initial.after calls).perform call).2 = initial.after calls
  /-- An update is made unless a block loses its shape. -/
  accepted : ∀ (σ : Type) (change : BlockKey → WeightBlock α → StateM σ (WeightBlock α)) (own : σ),
    ((initial.after calls).perform (.update change own)).1 = .changed ↔
      Kept (initial.after calls).weights.entries
        (((initial.after calls).weights.entries.mapM fun entry => change entry.1 entry.2).run own).1
  /-- An update replaces all blocks, in place as at one stroke. The new ones are what the function
  of the caller makes of the old ones, called on one after the other in the order of the keys. -/
  updated : ∀ (σ : Type) (change : BlockKey → WeightBlock α → StateM σ (WeightBlock α)) (own : σ),
    ((initial.after calls).perform (.update change own)).1 = .changed →
      ∃ new last, (initial.after calls).perform (.update change own) = (.changed, new) ∧
        ((initial.after calls).update change).run.run own = (.ok new, last) ∧
          new.weights.keys = (initial.after calls).weights.keys ∧
            ((initial.after calls).weights.entries.mapM fun entry =>
              change entry.1 entry.2).run own = (new.weights.blocks, last)
  /-- A snapshot that was taken can be restored, and brings the weights of that moment back. -/
  restored : ∀ i snapshot, (initial.replies calls)[i]? = some (.took snapshot) →
    (initial.after calls).perform (.restore snapshot) =
      (.changed, ⟨(initial.after (calls.take i)).weights, (initial.after calls).version + 1⟩)

theorem perform_refused {call : StoreCall α} {fault : NetworkError α}
    (serves : store.Serves domain arch) (h : (store.perform call).1 = .refused fault) :
    (store.perform call).2 = store := by
  rcases perform_cases serves call with ⟨_, refused⟩ | took | ⟨new, performed, _⟩
  · rw [refused]
  · rw [took]
  · rw [performed] at h
    cases h

theorem perform_changed {change : BlockKey → WeightBlock α → StateM σ (WeightBlock α)} {own : σ}
    (h : (store.perform (.update change own)).1 = .changed) :
    ∃ new last, store.perform (.update change own) = (.changed, new) ∧
      (store.update change).run.run own = (.ok new, last) := by
  rcases perform_update_cases store change own with ⟨_, _, refused, _⟩ | changed
  · rw [refused] at h
    cases h
  · exact changed

theorem perform_changed_iff {change : BlockKey → WeightBlock α → StateM σ (WeightBlock α)}
    {own : σ} :
    (store.perform (.update change own)).1 = .changed ↔ Kept store.weights.entries
      ((store.weights.entries.mapM fun entry => change entry.1 entry.2).run own).1 := by
  constructor
  · intro h
    obtain ⟨new, last, -, ran⟩ := perform_changed h
    obtain ⟨-, -, -, called, kept⟩ := update_eq_ok ran
    rwa [called]
  · intro kept
    obtain ⟨new, last, ran⟩ := exists_update kept
    rcases perform_update_cases store change own with ⟨_, _, _, failed⟩ | ⟨_, _, performed, _⟩
    · cases (Prod.mk.inj (failed.symm.trans ran)).1
    · rw [performed]

theorem Serves.blocks (serves : store.Serves domain arch) {key : BlockKey}
    (h : key ∈ store.weights.keys) : ∃ shape block,
      (key.shape domain arch : Except (NetworkError α) (Nat × Nat)) = .ok shape ∧
        store.weights.get? key = some block ∧ block.dims = [shape.1, shape.2, shape.2] := by
  obtain ⟨rfl, rfl, shaped⟩ := serves
  obtain ⟨block, found⟩ := Option.isSome_iff_exists.1 (Weights.get?_isSome_iff.2 h)
  obtain ⟨shape, biases⟩ := shaped.shaped key block found
  exact ⟨_, block, shape, found, by rw [WeightBlock.dims, biases]⟩

/-- Every run on an allocated store is faithful. -/
theorem allocate_faithful [Scalar α] {seed : UInt64} {initial : WeightStore α}
    (allocated : WeightStore.allocate domain arch seed = .ok initial)
    (calls : List (StoreCall α)) : Faithful domain arch initial calls := by
  obtain ⟨first, fresh⟩ := allocate_serves allocated
  have serves := after_serves first calls
  refine ⟨serves.domain_eq, serves.arch_eq, fun key h => serves.blocks h, ?_,
    fun call fault h => perform_refused serves h, fun _ _ _ => perform_changed_iff,
    fun σ change own h => ?_,
    fun i snapshot took => ?_⟩
  · rw [after_version first calls, fresh, UInt64.zero_add, UInt64.toNat_ofNat']
  · obtain ⟨new, last, performed, ran⟩ := perform_changed h
    obtain ⟨sameDomain, sameArch, -, called, -⟩ := update_eq_ok ran
    exact ⟨new, last, performed, ran, by rw [Weights.keys, sameDomain, sameArch]; rfl, called⟩
  · rw [replies_took took]
    exact perform_restore_snapshot serves (after_serves first (calls.take i))

end WeightStore

namespace WalkDomain

/-- Gives each block its number as the biases. -/
def number (_ : BlockKey) (block : WeightBlock Whole) : StateM Nat (WeightBlock Whole) :=
  modifyGet fun (count : Nat) => (⟨block.w, block.b.map fun _ => ⟨count⟩⟩, count + 1)

/-- Takes the biases of the output layer away. -/
def cut (key : BlockKey) (block : WeightBlock Whole) : StateM Unit (WeightBlock Whole) :=
  return if key.layer = arch.final then ⟨block.w, []⟩ else block

def calls : List (StoreCall Whole) := [.snapshot, .update number 0, .update cut (), .snapshot]

/-- The first update is made, the second one is refused half way through the blocks. -/
theorem store_numbered : ∃ initial : WeightStore Whole,
    WeightStore.allocate domain arch 7 = .ok initial ∧
      (initial.replies calls).map StoreReply.isChanged = [false, true, false, false] ∧
        WeightStore.Faithful domain arch initial calls := by
  have made : (WeightStore.allocate domain arch 7 :
      Except (NetworkError Whole) (WeightStore Whole)).toOption.any fun initial =>
        (initial.replies calls).map StoreReply.isChanged = [false, true, false, false] := by
    decide +kernel
  cases allocated : (WeightStore.allocate domain arch 7 :
      Except (NetworkError Whole) (WeightStore Whole)) with
  | error fault =>
    rw [allocated] at made
    cases made
  | ok initial =>
    rw [allocated] at made
    exact ⟨initial, rfl, of_decide_eq_true made, WeightStore.allocate_faithful allocated calls⟩

end WalkDomain

end SchemaNet
