import SchemaNet.Proofs.Network.Forms
import SchemaNet.Proofs.Network.StoreRuns

/-!
The text of a snapshot that is taken from a store, after whatever calls. It is read back as the
snapshot if the weights of the store are finite by then; otherwise it is refused.
-/

namespace SchemaNet

variable {α : Type}

/-! ## Stores that fit into memory -/

theorem Snapshot.forall_entries_iff {weights : Weights α} {good : WeightBlock α → Prop} :
    (∀ entry ∈ (ofWeights weights).blocks.entries, good entry.2) ↔
      ∀ block ∈ weights.blocks, good block := by
  have held : (ofWeights weights).blocks.entries.Perm weights.named :=
    NamedBlocks.ofList_perm weights.names_nodup
  rw [← weights.named_blocks, List.forall_mem_map]
  exact ⟨fun each pair mem => each pair (held.mem_iff.2 mem),
    fun each entry mem => each entry (held.mem_iff.1 mem)⟩

namespace WeightStore

variable {store initial : WeightStore α} {domain : Domain} {arch : Architecture}

/-- The blocks of all stores of a domain and an architecture have the same dimensions. -/
theorem Serves.isHeld (serves : store.Serves domain arch) (first : initial.Serves domain arch)
    (held : initial.snapshot.IsHeld) : store.snapshot.IsHeld := by
  refine ⟨?_, Snapshot.forall_entries_iff.2 fun block mem => ?_⟩
  · have words := held.words
    rwa [snapshot, Snapshot.ofWeights, first.arch_eq, ← serves.arch_eq] at words
  rw [← store.weights.entries_blocks] at mem
  obtain ⟨⟨key, block⟩, own, rfl⟩ := List.mem_map.1 mem
  have hkey : key ∈ store.weights.keys := (List.of_mem_zip own).1
  have hkey' : key ∈ initial.weights.keys := by
    rwa [Weights.keys, serves.domain_eq, serves.arch_eq, ← first.domain_eq, ← first.arch_eq] at hkey
  obtain ⟨shape, _, formed, found, dims⟩ := serves.blocks hkey
  obtain ⟨shape', old, formed', found', dims'⟩ := first.blocks hkey'
  obtain rfl := Option.some.inj ((Weights.get?_of_mem_entries own).symm.trans found)
  obtain rfl := Except.ok.inj (formed.symm.trans formed')
  have among : old ∈ initial.weights.blocks :=
    (List.of_mem_zip (Weights.mem_entries_of_get? found')).2
  exact (Snapshot.forall_entries_iff.1 held.blocks old among).of_dims (dims.trans dims'.symm)

end WeightStore

section Allocation

variable [Scalar α] {domain : Domain} {arch : Architecture} {seed : UInt64}

theorem Memory.glorot_ensures_isHeld {σ : Type} [WordSource σ] (inputs outputs : Nat) :
    Stateful.Ensures (glorot inputs outputs : Stateful α σ (WeightBlock α))
      WeightBlock.IsHeld := by
  refine .bind (.any _) fun _ _ => .bind (.ofExcept fun _ checked => checkBlock_eq_ok.1 checked)
    fun _ stored => .lift fun before => ?_
  refine ⟨(Bool.and_eq_true_iff.1 stored.1).1, ?_⟩
  show Size.isIndexable [(List.replicate outputs Scalar.zero).length]
  rw [List.length_replicate]
  exact (Bool.and_eq_true_iff.1 stored.2).1

theorem WeightStore.allocate_isHeld {initial : WeightStore α} (words : arch.InWords)
    (allocated : allocate domain arch seed = .ok initial) : initial.snapshot.IsHeld := by
  have own := (allocate_serves allocated).1.arch_eq
  obtain ⟨weights, made, same⟩ := Memory.bind_eq_ok.1 allocated
  obtain rfl := Except.ok.inj same
  refine ⟨?_, Snapshot.forall_entries_iff.2 ?_⟩
  · show weights.arch.InWords
    rwa [show weights.arch = arch from own]
  · obtain ⟨-, -, -, -, held⟩ := Weights.build_ensures_each
      (fun _ _ _ shape _ => Memory.glorot_ensures_isHeld shape.1 shape.2)
      (Generator.ofSeed seed) weights _ (Prod.ext made rfl)
    intro block mem
    obtain ⟨key, -, own⟩ := forall₂_mem_right held mem
    exact own

/-- All weights are finite. -/
def Weights.IsFinite (weights : Weights α) : Prop := ∀ block ∈ weights.blocks, block.IsFinite

end Allocation

/-! ## Texts of snapshots -/

variable [Scalar α] [JsonScalar α] [LawfulJsonScalar α]

namespace WeightStore

variable {initial : WeightStore α} {domain : Domain} {arch : Architecture}

/-- After any calls on a store the text of a snapshot is read back exactly if all weights are
finite, and then it is the snapshot; the weights come back from the snapshot in any case. -/
theorem text_read_back_iff (serves : initial.Serves domain arch) (held : initial.snapshot.IsHeld)
    (calls : List (StoreCall α)) :
    (∀ result, (Snapshot.parse (initial.after calls).snapshot.text).outcome.1 = .ok result ↔
      (initial.after calls).weights.IsFinite ∧ result = (initial.after calls).snapshot) ∧
    (initial.after calls).snapshot.weights = .ok (initial.after calls).weights := by
  have after := after_serves serves calls
  refine ⟨fun result => ?_, Snapshot.restore_ofWeights after.shaped⟩
  rw [Snapshot.parse_text (after.isHeld serves held)]
  exact and_congr_left' Snapshot.forall_entries_iff

end WeightStore

/-! ## A number that is not finite -/

/-- Whole numbers and an infinity, in which every operation on it ends. -/
inductive Unbounded where
  | whole (n : Int)
  | infinite
  deriving DecidableEq, Repr

namespace Unbounded

def lift (f : Int → Int) : Unbounded → Unbounded
  | whole n => whole (f n)
  | infinite => infinite

def lift₂ (f : Int → Int → Int) : Unbounded → Unbounded → Unbounded
  | whole m, whole n => whole (f m n)
  | _, _ => infinite

def le : Unbounded → Unbounded → Bool
  | whole m, whole n => m ≤ n
  | whole _, infinite => true
  | infinite, n => n = infinite

instance : Scalar Unbounded where
  add := lift₂ (· + ·)
  sub := lift₂ (· - ·)
  mul := lift₂ (· * ·)
  div := lift₂ (· / ·)
  neg := lift (- ·)
  ofNat n := whole n
  negInf := whole (-1)
  max := lift₂ max
  abs := lift fun n => n.natAbs
  sqrt := lift fun n => n.toNat.sqrt
  exp := lift fun _ => 1
  expm1 := lift fun _ => 0
  log1p := lift fun _ => 0
  tanh := lift fun _ => 0
  lt m n := !le n m
  le := le
  eq m n := m = n
  isFinite
    | whole _ => true
    | infinite => false
  order m n := if le m n then if le n m then .eq else .lt else .gt
  display
    | whole n => toString n
    | infinite => "inf"

def number (n : Int) : Json.Number := ⟨n < 0, Nat.toDigits 10 n.natAbs, [], none⟩

instance : JsonScalar Unbounded where
  toJson
    | whole n => .num (number n)
    | infinite => .null
  ofJson
    | .num ⟨negative, digits, [], none⟩ =>
      .ok (whole (if negative then -Json.Number.digitsValue digits
        else Json.Number.digitsValue digits))
    | _ => .error (.expected "a whole number")

theorem number_wellFormed (n : Int) : (number n).WellFormed :=
  { Json.Number.ofNat_wellFormed n.natAbs with }

instance : LawfulJsonScalar Unbounded where
  finite
    | whole n, _ => by
      refine ⟨number n, number_wellFormed n, rfl, ?_⟩
      have digits : Json.Number.digitsValue (Nat.toDigits 10 n.natAbs) = n.natAbs :=
        Option.some.inj (Json.Number.toNat?_ofNat n.natAbs)
      show Except.ok (whole _) = _
      rw [digits]
      simp only [decide_eq_true_eq, Except.ok.injEq, whole.injEq]
      split <;> omega
    | infinite, h => nomatch h
  other
    | whole _, h => absurd rfl h
    | infinite, _ => rfl
  null _ := fun h => nomatch h

instance (weights : Weights Unbounded) : Decidable weights.IsFinite :=
  inferInstanceAs (Decidable (∀ block ∈ weights.blocks, ∀ x ∈ block.w.flat ++ block.b,
    Scalar.isFinite x = true))

/-- Sets all biases. -/
def fill (bias : Unbounded) (_ : BlockKey) (block : WeightBlock Unbounded) :
    StateM Unit (WeightBlock Unbounded) :=
  return ⟨block.w, block.b.map fun _ => bias⟩

def calls (bias : Unbounded) : List (StoreCall Unbounded) := [.update (fill bias) ()]

open WalkDomain (domain arch)

theorem arch_inWords : arch.InWords := ⟨by decide, by decide, by decide⟩

/-- The update is made, and the weights are finite if the bias is. -/
theorem exists_filled (bias : Unbounded) (known : bias = whole 2 ∨ bias = infinite) :
    ∃ initial : WeightStore Unbounded, WeightStore.allocate domain arch 7 = .ok initial ∧
      (initial.replies (calls bias)).map StoreReply.isChanged = [true] ∧
        ((initial.after (calls bias)).weights.IsFinite ↔ bias = whole 2) := by
  have made : ∀ bias ∈ [whole 2, infinite], (WeightStore.allocate domain arch 7 :
      Except (NetworkError Unbounded) (WeightStore Unbounded)).toOption.any fun initial =>
        (initial.replies (calls bias)).map StoreReply.isChanged = [true] ∧
          ((initial.after (calls bias)).weights.IsFinite ↔ bias = whole 2) := by
    decide +kernel
  replace made := made bias (by simpa using known)
  cases allocated : (WeightStore.allocate domain arch 7 :
      Except (NetworkError Unbounded) (WeightStore Unbounded)) with
  | error fault =>
    rw [allocated] at made
    cases made
  | ok initial =>
    rw [allocated] at made
    exact ⟨initial, rfl, of_decide_eq_true made⟩

/-- Finite biases come back from the text. -/
theorem whole_biases_read_back : ∃ initial : WeightStore Unbounded,
    initial.Serves domain arch ∧ initial.snapshot.IsHeld ∧
      (Snapshot.parse (initial.after (calls (whole 2))).snapshot.text).outcome.1 =
        .ok (initial.after (calls (whole 2))).snapshot ∧
      (initial.after (calls (whole 2))).snapshot.weights =
        .ok (initial.after (calls (whole 2))).weights := by
  obtain ⟨initial, allocated, -, finite⟩ := exists_filled (whole 2) (.inl rfl)
  have serves := (WeightStore.allocate_serves allocated).1
  have held := WeightStore.allocate_isHeld arch_inWords allocated
  obtain ⟨parsed, restored⟩ := WeightStore.text_read_back_iff serves held (calls (whole 2))
  exact ⟨initial, serves, held, (parsed _).2 ⟨finite.2 rfl, rfl⟩, restored⟩

/-- The update that sets infinite biases is made, and nothing can be read from the text that is
written after it. -/
theorem infinite_biases_lost : ∃ initial : WeightStore Unbounded,
    WeightStore.allocate domain arch 7 = .ok initial ∧
      (initial.replies (calls infinite)).map StoreReply.isChanged = [true] ∧
        ∀ result : Snapshot Unbounded,
          (Snapshot.parse (initial.after (calls infinite)).snapshot.text).outcome.1 ≠
            .ok result := by
  obtain ⟨initial, allocated, changed, finite⟩ := exists_filled infinite (.inr rfl)
  have serves := (WeightStore.allocate_serves allocated).1
  have held := (WeightStore.after_serves serves (calls infinite)).isHeld serves
    (WeightStore.allocate_isHeld arch_inWords allocated)
  refine ⟨initial, allocated, changed, fun result read => ?_⟩
  have finite' := Snapshot.forall_entries_iff.1 ((Snapshot.parse_text held result).1 read).1
  exact absurd (finite.1 finite') (by decide)

end Unbounded

end SchemaNet
