import SchemaNet.Proofs.Network.EmptyPools
import SchemaNet.Proofs.Network.Merge
import SchemaNet.Proofs.Scalar.Binary32Order

/-!
Pools as sets of positions. The run of maxima over a pool begins with its first entity, whatever
stands there; but in each channel it finds the greatest number among the pooled entities. So what
a pool holds depends on no order, no repetition and no other pool.
-/

namespace SchemaNet
open Scalar (IsGreatestNumber MaxOrder foldl_max_greatest)
open Scalar.MaxOrder (place)

namespace Tensor

variable {α : Type} [Scalar α]

/-! ## One row -/

section Row

variable {entities channels c : Nat} {pad : α} {row : List (List α)} {pool other : List Nat}

/-- The entry of an entity in a channel. -/
def entryAt (row : List (List α)) (c i : Nat) : α := (entityAt row i).getD c Scalar.zero

theorem getElem?_entityAt (shape : HasShape entities channels row) (hc : c < channels) {i : Nat}
    (hi : i < entities) : (entityAt row i)[c]? = some (entryAt row c i) := by
  have inside : c < (entityAt row i).length := by rwa [entityAt_length shape hi]
  rw [entryAt, List.getD_eq_getElem?_getD, List.getElem?_eq_getElem inside, Option.getD_some]

/-- The channels of a pool are pooled each for itself. -/
theorem poolEntity_getElem? {first : Nat} {rest : List Nat}
    (shape : HasShape entities channels row) (hc : c < channels)
    (inRange : ∀ i ∈ first :: rest, i < entities) :
    (poolEntity channels pad row (first :: rest))[c]? =
      some ((rest.map (entryAt row c)).foldl Scalar.max (entryAt row c first)) := by
  rw [List.forall_mem_cons] at inRange
  -- The fold starts from another entity at each step; only its entry in the channel counts.
  have fold : ∀ (start : List α) (x : α), start[c]? = some x →
      (rest.foldl (fun greatest i => List.zipWith Scalar.max greatest (entityAt row i)) start)[c]? =
        some ((rest.map (entryAt row c)).foldl Scalar.max x) := by
    replace inRange := inRange.2
    induction rest with
    | nil => exact fun _ _ held => held
    | cons i rest ih =>
      intro start x held
      rw [List.forall_mem_cons] at inRange
      refine ih inRange.2 _ _ ?_
      rw [List.getElem?_zipWith, held, getElem?_entityAt shape hc inRange.1]
  exact fold _ _ (getElem?_entityAt shape hc inRange.1)

variable {κ : Type} [LinearOrder κ] [MaxOrder α κ]

include κ in
theorem exists_greatest (pad : α) (shape : HasShape entities channels row) (hc : c < channels)
    (inRange : ∀ i ∈ pool, i < entities) (filled : pool ≠ []) :
    ∃ x, (poolEntity channels pad row pool)[c]? = some x ∧
      IsGreatestNumber {x | ∃ i ∈ pool, entryAt row c i = x} x := by
  cases pool with
  | nil => exact absurd rfl filled
  | cons first rest =>
    refine ⟨_, poolEntity_getElem? shape hc inRange, ?_⟩
    have found := foldl_max_greatest (entryAt row c first) (rest.map (entryAt row c))
    rw [← List.map_cons] at found
    simpa only [List.mem_map] using found

/-- Pools of the same positions hold numbers at the same places. -/
theorem poolEntity_place (shape : HasShape entities channels row)
    (inRange : ∀ i ∈ pool, i < entities) (same : ∀ i, i ∈ pool ↔ i ∈ other) (c : Nat) :
    (poolEntity channels pad row pool)[c]?.map place =
      (poolEntity channels pad row other)[c]?.map place := by
  have inRange' : ∀ i ∈ other, i < entities := fun i hi => inRange i ((same i).2 hi)
  by_cases hc : c < channels
  · by_cases filled : pool = []
    · subst filled
      obtain rfl : other = [] := List.eq_nil_iff_forall_not_mem.2 fun i hi => by
        simpa using (same i).2 hi
      rfl
    · have filled' : other ≠ [] := by
        rintro rfl
        exact filled (List.eq_nil_iff_forall_not_mem.2 fun i hi => by simpa using (same i).1 hi)
      obtain ⟨x, hx, greatest⟩ := exists_greatest pad shape hc inRange filled
      obtain ⟨y, hy, greatest'⟩ := exists_greatest pad shape hc inRange' filled'
      simp only [same] at greatest
      rw [hx, hy, Option.map_some, Option.map_some, greatest.place_eq greatest']
  · have beyond := Nat.le_of_not_lt hc
    rw [List.getElem?_eq_none (by rwa [poolEntity_length pad shape inRange]),
      List.getElem?_eq_none (by rwa [poolEntity_length pad shape inRange'])]

end Row

/-! ## All rows -/

variable {tensor pooled result : Tensor α} {pools others : List (List Nat)} {pad : α}

/-- The entries of the pooled entities in a channel of a row. -/
def valuesIn (tensor : Tensor α) (pool : List Nat) (b c : Nat) : Set α :=
  { x | ∃ i ∈ pool, tensor.cell? b i c = some x }

theorem maxPool_of_inRange (pad : α) (inRange : ∀ pool ∈ pools, ∀ i ∈ pool, i < tensor.entities) :
    ∃ pooled, tensor.maxPool pools pad = .ok pooled ∧
      pooled.dims = [tensor.batch, pools.length, tensor.channels] :=
  ⟨_, dif_pos inRange, rfl⟩

theorem inRange_of_maxPool (h : tensor.maxPool pools pad = .ok pooled) :
    ∀ pool ∈ pools, ∀ i ∈ pool, i < tensor.entities := by
  by_contra outside
  rw [maxPool, dif_neg outside] at h
  cases h

/-- A pool sees the rows one by one, and no other pool. -/
theorem cell?_maxPool (h : tensor.maxPool pools pad = .ok pooled) (b k c : Nat) :
    pooled.cell? b k c = (tensor.rows[b]?).bind fun row =>
      (pools[k]?).bind fun pool => (poolEntity tensor.channels pad row pool)[c]? := by
  have inRange := inRange_of_maxPool h
  rw [maxPool, dif_pos inRange] at h
  rw [← Except.ok.inj h, cell?, rows_mapRows, List.getElem?_map]
  cases tensor.rows[b]? with
  | none => rfl
  | some row =>
    rw [Option.map_some, Option.bind_some, Option.bind_some, List.getElem?_map]
    cases pools[k]? <;> rfl

theorem valuesIn_eq {pool : List Nat} {b c : Nat} {row : List (List α)}
    (hrow : tensor.rows[b]? = some row) (hc : c < tensor.channels)
    (inRange : ∀ i ∈ pool, i < tensor.entities) :
    tensor.valuesIn pool b c = { x | ∃ i ∈ pool, entryAt row c i = x } := by
  have shape := tensor.rows_dims.each row (List.mem_of_getElem? hrow)
  ext x
  refine exists_congr fun i => and_congr_right fun hi => ?_
  have inside : i < row.length := by rw [shape.count]; exact inRange i hi
  have entry := getElem?_entityAt shape hc (inRange i hi)
  rw [entityAt, List.getD_eq_getElem?_getD, List.getElem?_eq_getElem inside,
    Option.getD_some] at entry
  rw [cell?, hrow, Option.bind_some, List.getElem?_eq_getElem inside, Option.bind_some, entry,
    Option.some.injEq]

theorem emptyPools_eq_ncard (pools : List (List Nat)) :
    emptyPools pools = { k : Nat | pools[k]? = some [] }.ncard := by
  have listed : ∀ k : Nat, pools[k]? = some [] ↔
      k ∈ List.range pools.length ∧ (pools[k]?).any List.isEmpty = true := fun k => by
    rw [List.mem_range]
    by_cases inside : k < pools.length <;> simp [inside]
  have counted := countP_of_forall₂ (p := fun k : Nat => (pools[k]?).any List.isEmpty)
    ((picks_range pools).imp fun k pool place => by rw [place, Option.any_some])
  exact counted.symm.trans (ncard_eq_countP List.nodup_range listed).symm

variable {κ : Type} [LinearOrder κ] [MaxOrder α κ]

/-- Each pool holds the greatest number of each channel among its entities, or the pad if it is
empty. What it holds in the order of the numbers is settled by the set of its positions, and it is
the same for the same pool among any others. Pooling fails only on a size that cannot be stored. -/
theorem pools_take_greatest (pad : α)
    (inRange : ∀ pool ∈ pools, ∀ i ∈ pool, i < tensor.entities) :
    ∃ pooled, tensor.maxPool pools pad = .ok pooled ∧
      pooled.dims = [tensor.batch, pools.length, tensor.channels] ∧
      Memory.maxPool tensor pools pad =
        (if Size.isStorable pooled.dims then .ok pooled else .error .outOfRange) ∧
      (∀ b < tensor.batch, ∀ k pool, pools[k]? = some pool → ∀ c < tensor.channels,
        ∃ x, pooled.cell? b k c = some x ∧ (pool = [] → x = pad) ∧
          (pool ≠ [] → IsGreatestNumber (tensor.valuesIn pool b c) x)) ∧
      (∀ others result, tensor.maxPool others pad = .ok result →
        ∀ k j pool other, pools[k]? = some pool → others[j]? = some other →
          (∀ i, i ∈ pool ↔ i ∈ other) → ∀ b c,
            (pooled.cell? b k c).map place = (result.cell? b j c).map place ∧
              (pool = other → pooled.cell? b k c = result.cell? b j c)) ∧
      emptyPools pools = { k : Nat | pools[k]? = some [] }.ncard := by
  obtain ⟨pooled, hpooled, dims⟩ := maxPool_of_inRange pad inRange
  refine ⟨pooled, hpooled, dims, ?_, fun b hb k pool hk c hc => ?_,
    fun others result hresult k j pool other hk hj same b c => ?_, emptyPools_eq_ncard pools⟩
  · rw [dims, Memory.maxPool, Memory.checkPools, Size.require]
    split
    · exact hpooled
    · rfl
  · have inside := inRange pool (List.mem_of_getElem? hk)
    have hrow := List.getElem?_eq_getElem (l := tensor.rows) (by rwa [tensor.rows_dims.count])
    rw [cell?_maxPool hpooled, hrow, Option.bind_some, hk, Option.bind_some,
      valuesIn_eq hrow hc inside]
    have shape := tensor.rows_dims.each _ (List.mem_of_getElem? hrow)
    by_cases filled : pool = []
    · subst filled
      exact ⟨pad, by simp [poolEntity, hc], fun _ => rfl, fun h => absurd rfl h⟩
    · obtain ⟨x, hx, greatest⟩ := exists_greatest pad shape hc inside filled
      exact ⟨x, hx, fun h => absurd h filled, fun _ => greatest⟩
  · rw [cell?_maxPool hpooled, cell?_maxPool hresult, hk, hj]
    refine ⟨?_, by rintro rfl; rfl⟩
    cases hrow : tensor.rows[b]? with
    | none => rfl
    | some row =>
      exact poolEntity_place (tensor.rows_dims.each row (List.mem_of_getElem? hrow))
        (inRange pool (List.mem_of_getElem? hk)) same c

end Tensor

namespace LostReadings

def minusOne : Float32 := Float32.ofBits 0xbf800000

def minusTwo : Float32 := Float32.ofBits 0xc0000000

def minusThree : Float32 := Float32.ofBits 0xc0400000

/-- Three entities with two channels. The first has lost one channel, the second the other, and
the third both. -/
def readings : Tensor Float32 :=
  ⟨1, 3, 2, [Binary32.notANumber, minusTwo, minusThree, Binary32.notANumber, Binary32.notANumber,
    Binary32.notANumber], rfl⟩

def pools : List (List Nat) := [[0, 1], [2], [], [1, 0, 1]]

def held (k c : Nat) : Option Float32 :=
  (readings.maxPool pools minusOne).toOption.bind (·.cell? 0 k c)

/-- A reading that is lost is passed over, be it the first of a pool or a later one, although the
number that is found lies below the pad. -/
theorem lost_readings_passed_over :
    (∀ pool ∈ pools, ∀ i ∈ pool, i < readings.entities) ∧
      ∃ pooled, readings.maxPool pools minusOne = .ok pooled ∧
        Memory.maxPool readings pools minusOne = .ok pooled ∧
        pooled.cell? 0 0 0 = some minusThree ∧
        IsGreatestNumber (readings.valuesIn [0, 1] 0 0) minusThree ∧
        pooled.cell? 0 0 1 = some minusTwo ∧
        IsGreatestNumber (readings.valuesIn [0, 1] 0 1) minusTwo ∧
        pooled.cell? 0 1 0 = some Binary32.notANumber ∧
        IsGreatestNumber (readings.valuesIn [2] 0 0) Binary32.notANumber ∧
        pooled.cell? 0 2 0 = some minusOne ∧
        (pooled.cell? 0 0 0).map place = (pooled.cell? 0 3 0).map place ∧
        { k : Nat | pools[k]? = some [] }.ncard = 1 := by
  have inRange : ∀ pool ∈ pools, ∀ i ∈ pool, i < readings.entities := by decide
  obtain ⟨pooled, ran, dims, stored, entries, sets, empty⟩ :=
    Tensor.pools_take_greatest minusOne inRange
  have evaluated : held 0 0 = some minusThree ∧ held 0 1 = some minusTwo ∧
      held 1 0 = some Binary32.notANumber ∧ held 2 0 = some minusOne := by decide +kernel
  have read : ∀ k c, held k c = pooled.cell? 0 k c := fun k c => by rw [held, ran]; rfl
  simp only [read] at evaluated
  obtain ⟨first, second, third, fourth⟩ := evaluated
  have greatest : ∀ k c pool x, pools[k]? = some pool → pool ≠ [] → c < 2 →
      pooled.cell? 0 k c = some x → IsGreatestNumber (readings.valuesIn pool 0 c) x := by
    intro k c pool x hk filled hc hx
    obtain ⟨y, hy, -, found⟩ := entries 0 (by decide) k pool hk c hc
    obtain rfl := Option.some.inj (hx.symm.trans hy)
    exact found filled
  refine ⟨inRange, pooled, ran, ?_, first, greatest 0 0 _ _ rfl (by decide) (by decide) first,
    second, greatest 0 1 _ _ rfl (by decide) (by decide) second, third,
    greatest 1 0 _ _ rfl (by decide) (by decide) third, fourth,
    (sets pools pooled ran 0 3 [0, 1] [1, 0, 1] rfl rfl (by simp) 0 0).1, empty.symm⟩
  rw [stored, dims]
  rfl

end LostReadings

end SchemaNet
