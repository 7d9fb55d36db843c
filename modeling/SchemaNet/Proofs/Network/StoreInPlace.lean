import SchemaNet.Proofs.Network.SnapshotRoundTrip

/-!
A store that is changed in place: the blocks are first made one by one and then written one by
one, and the number of changes goes up at the end. Whatever fails, fails before the first block
is written, so the store is left either as it was or as a change at one stroke makes it.
-/

namespace SchemaNet

namespace WeightStore

variable {α σ β : Type}

/-- A computation on a store, next to the state of a function of the caller. What was written
before a failure stays written. -/
abbrev InPlace (α σ β : Type) := Stateful α (WeightStore α × σ) β

/-- A computation that does not touch the store. -/
def aside (action : Stateful α σ β) : InPlace α σ β :=
  ExceptT.mk fun state =>
    let ran := action.run.run state.2
    (ran.1, state.1, ran.2)

def changeBlock (change : BlockKey → WeightBlock α → StateM σ (WeightBlock α)) (key : BlockKey) :
    InPlace α σ (WeightBlock α) := do
  let (store, _) ← get
  aside (updateBlock store.weights change key)

def writeBlock (entry : BlockKey × WeightBlock α) : InPlace α σ Unit := do
  let (store, own) ← get
  let weights ← Stateful.ofExcept (store.weights.modify entry.1 fun _ => entry.2)
  set ({ store with weights }, own)

def countChange : InPlace α σ Unit :=
  modify fun (store, own) => ({ store with version := store.version + 1 }, own)

def updateInPlace (change : BlockKey → WeightBlock α → StateM σ (WeightBlock α)) :
    InPlace α σ Unit := do
  let (store, _) ← get
  let changed ← Weights.collect (changeBlock change) store.weights.keys
  (store.weights.keys.zip changed.1).forM writeBlock
  countChange

def restoreInPlace (snapshot : Snapshot α) : InPlace α σ Unit := do
  let (store, own) ← get
  let weights ← Stateful.ofExcept (snapshot.restore store.weights.domain store.weights.arch)
  set ({ store with weights }, own)
  countChange

/-- What a change at one stroke leaves behind: the new store, or the fault and the old one. -/
def settle (store : WeightStore α) : Except (NetworkError α) (WeightStore α) × σ →
    Except (NetworkError α) Unit × (WeightStore α × σ)
  | (.ok new, own) => (.ok (), new, own)
  | (.error fault, own) => (.error fault, store, own)

variable {store : WeightStore α} {own : σ}
  {change : BlockKey → WeightBlock α → StateM σ (WeightBlock α)}

theorem run_changeBlock {key : BlockKey} {result : Except (NetworkError α) (WeightBlock α)}
    {after : σ} (h : (updateBlock store.weights change key).run.run own = (result, after)) :
    (changeBlock change key).run.run (store, own) = (result, store, after) := by
  show ((((updateBlock store.weights change key).run.run own).1, store,
    ((updateBlock store.weights change key).run.run own).2) : _ × _ × _) = _
  rw [h]

/-- While the new blocks are made, the store stays as it is. -/
theorem run_collect_changeBlock {keys : List BlockKey}
    {result : Except (NetworkError α) { own : List (WeightBlock α) // own.length = keys.length }}
    {after : σ}
    (h : (Weights.collect (updateBlock store.weights change) keys).run.run own = (result, after)) :
    (Weights.collect (changeBlock change) keys).run.run (store, own) = (result, store, after) := by
  induction keys generalizing own after with
  | nil =>
    obtain ⟨rfl, rfl⟩ := Prod.mk.inj h
    rfl
  | cons key rest ih =>
    rw [Weights.collect_cons] at h ⊢
    rcases first : (updateBlock store.weights change key).run.run own with ⟨fault | block, between⟩
    · rw [Stateful.run_bind_error first] at h
      obtain ⟨rfl, rfl⟩ := Prod.mk.inj h
      exact Stateful.run_bind_error (run_changeBlock first) _
    · rw [Stateful.run_bind_ok first] at h
      rw [Stateful.run_bind_ok (run_changeBlock first)]
      rcases others : (Weights.collect (updateBlock store.weights change) rest).run.run between with
        ⟨fault | blocks, last⟩
      · rw [Stateful.run_bind_error others] at h
        obtain ⟨rfl, rfl⟩ := Prod.mk.inj h
        exact Stateful.run_bind_error (ih others) _
      · rw [Stateful.run_bind_ok others] at h
        obtain ⟨rfl, rfl⟩ := Prod.mk.inj h
        exact Stateful.run_bind_ok (ih others) _

/-! ## Writing the blocks -/

section Writes

variable {domain : Domain} {arch : Architecture} {before after : List BlockKey} {key : BlockKey}
  {done old new : List (WeightBlock α)} {first block : WeightBlock α} {version : UInt64}

theorem position?_of_split (keys : BlockKey.all domain arch = before ++ key :: after) :
    key.position? domain arch = some before.length := by
  refine BlockKey.position?_of_getElem? ?_
  rw [keys, List.getElem?_append_right (Nat.le_refl _), Nat.sub_self, List.getElem?_cons_zero]

/-- One block is written, behind those that are `done`. -/
theorem run_writeBlock (keys : BlockKey.all domain arch = before ++ key :: after)
    (hdone : done.length = before.length)
    (aligned : (done ++ first :: old).length = (BlockKey.all domain arch).length)
    (aligned' : ((done ++ [block]) ++ old).length = (BlockKey.all domain arch).length) :
    (writeBlock (key, block)).run.run
        (⟨⟨domain, arch, done ++ first :: old, aligned⟩, version⟩, own) =
      (.ok (), ⟨⟨domain, arch, (done ++ [block]) ++ old, aligned'⟩, version⟩, own) := by
  have place : key.position? domain arch = some done.length := by
    rw [position?_of_split keys, hdone]
  have found : (done ++ first :: old)[done.length]? = some first := by
    rw [List.getElem?_append_right (Nat.le_refl _), Nat.sub_self, List.getElem?_cons_zero]
  have changed : (done ++ first :: old).set done.length block = (done ++ [block]) ++ old := by
    rw [List.set_append_right _ _ (Nat.le_refl _), Nat.sub_self, List.set_cons_zero,
      List.append_assoc, List.singleton_append]
  have known : key ∈ BlockKey.all domain arch := by
    rw [keys]
    exact List.mem_append_right _ List.mem_cons_self
  obtain ⟨name, named⟩ :
      ∃ name, (key.name domain arch : Except (NetworkError α) String) = .ok name :=
    BlockKey.exists_name known
  have written : Weights.modify ⟨domain, arch, done ++ first :: old, aligned⟩ key (fun _ => block) =
      .ok ⟨domain, arch, (done ++ [block]) ++ old, aligned'⟩ := by
    simp only [Weights.modify, Weights.nameOf, named, ok_bind, Weights.get?, place,
      Option.bind_some, found, Weights.set, changed, pure_eq_ok]
  unfold writeBlock
  rw [Stateful.run_bind_get]
  dsimp only
  rw [written, Stateful.run_bind_ok Stateful.run_ofExcept]
  rfl

/-- The new blocks of the keys that are left are written one by one. -/
theorem run_writes (keys : BlockKey.all domain arch = before ++ after)
    (hdone : done.length = before.length) (hold : old.length = after.length)
    (hnew : new.length = after.length)
    (aligned : (done ++ old).length = (BlockKey.all domain arch).length)
    (aligned' : (done ++ new).length = (BlockKey.all domain arch).length) :
    ((after.zip new).forM writeBlock).run.run
        (⟨⟨domain, arch, done ++ old, aligned⟩, version⟩, own) =
      (.ok (), ⟨⟨domain, arch, done ++ new, aligned'⟩, version⟩, own) := by
  induction after generalizing before done old new with
  | nil =>
    obtain rfl := List.length_eq_zero_iff.1 hold
    obtain rfl := List.length_eq_zero_iff.1 hnew
    rfl
  | cons key after ih =>
    obtain ⟨first, old, rfl⟩ := List.exists_cons_of_length_eq_add_one hold
    obtain ⟨block, new, rfl⟩ := List.exists_cons_of_length_eq_add_one hnew
    -- the written block joins those that are done, and its key those before
    have keys' : BlockKey.all domain arch = (before ++ [key]) ++ after := by
      rw [keys, List.append_assoc, List.singleton_append]
    have hdone' : (done ++ [block]).length = (before ++ [key]).length := by
      rw [List.length_append, List.length_append, hdone]
      rfl
    have between : ((done ++ [block]) ++ old).length = (BlockKey.all domain arch).length := by
      rw [← aligned, List.append_assoc, List.singleton_append, List.length_append,
        List.length_append, List.length_cons, List.length_cons]
    have last : ((done ++ [block]) ++ new).length = (BlockKey.all domain arch).length := by
      rw [List.append_assoc, List.singleton_append, aligned']
    have later := ih keys' hdone' (Nat.succ.inj hold) (Nat.succ.inj hnew) between last
    have all := (Stateful.run_bind_ok (run_writeBlock keys hdone aligned between)
      fun _ => (after.zip new).forM writeBlock).trans later
    have blocks : (done ++ [block]) ++ new = done ++ block :: new := by
      rw [List.append_assoc, List.singleton_append]
    simp only [blocks] at all
    exact all

theorem run_writeAll (store : WeightStore α) {new : List (WeightBlock α)}
    (aligned : new.length = store.weights.keys.length) :
    ((store.weights.keys.zip new).forM writeBlock).run.run (store, own) =
      (.ok (), ⟨{ store.weights with blocks := new, aligned }, store.version⟩, own) := by
  obtain ⟨⟨domain, arch, old, before⟩, version⟩ := store
  have none_done : ([] : List (WeightBlock α)).length = ([] : List BlockKey).length := rfl
  exact run_writes (List.nil_append _).symm none_done before aligned before aligned

end Writes

/-! ## Whole changes -/

/-- An update in place does what an update at one stroke does. -/
theorem run_updateInPlace (store : WeightStore α)
    (change : BlockKey → WeightBlock α → StateM σ (WeightBlock α)) (own : σ) :
    (updateInPlace change).run.run (store, own) =
      settle store ((store.update change).run.run own) := by
  unfold updateInPlace update
  rw [Stateful.run_bind_get]
  dsimp only
  rcases ran : (Weights.collect (updateBlock store.weights change) store.weights.keys).run.run own
    with ⟨fault | results, after⟩
  · rw [Stateful.run_bind_error (run_collect_changeBlock ran), Stateful.run_bind_error ran]
    rfl
  · rw [Stateful.run_bind_ok (run_collect_changeBlock ran), Stateful.run_bind_ok ran,
      Stateful.run_bind_ok (run_writeAll store results.2)]
    rfl

/-- So does a restoring in place. -/
theorem run_restoreInPlace (store : WeightStore α) (snapshot : Snapshot α) (own : σ) :
    (restoreInPlace snapshot).run.run (store, own) =
      settle store (store.restore snapshot, own) := by
  unfold restoreInPlace restore
  rw [Stateful.run_bind_get]
  dsimp only
  cases snapshot.restore store.weights.domain store.weights.arch <;> rfl

end WeightStore

end SchemaNet
