import Mathlib.Data.List.Nodup
import Mathlib.Logic.Function.Basic
import SchemaNet.Planning.Error
import SchemaNet.Proofs.KeyedList
import SchemaNet.Proofs.Traversal

/-!
Tables that a loop fills by position. A place without an entry stops the loop, and so does
a fault of an element; the lemmas say what a loop leaves when its tables list the values of
a function over distinct keys.
-/

namespace SchemaNet

/-- Why a loop over tables stops before its end. -/
inductive Halt where
  | refused (fault : PlanningError)
  /-- A table is read or changed at a place where it has no entry. -/
  | noEntry
  deriving DecidableEq, Repr

/-- The outcome of a loop that some fault, if there is one, has stopped. -/
def Halt.settle {σ : Type} (fault? : Option PlanningError) (state : σ) : Except Halt σ :=
  match fault? with
  | some fault => .error (.refused fault)
  | none => .ok state

theorem update_cell_of_ne {α β γ : Type} [DecidableEq α] [DecidableEq β] {f : α → β → γ}
    {a a' : α} {b b' : β} {value : γ} (apart : ¬(a = a' ∧ b = b')) :
    Function.update f a' (Function.update (f a') b' value) a b = f a b := by
  by_cases same : a = a'
  · subst same
    rw [Function.update_self, Function.update_of_ne fun equal => apart ⟨rfl, equal⟩]
  · rw [Function.update_of_ne same]

namespace Table

variable {β κ ι : Type}

def read (table : List β) (i : Nat) : Except Halt β :=
  match table[i]? with
  | some entry => .ok entry
  | none => .error .noEntry

/-- Changes the entry at a place. -/
def revise (table : List β) (i : Nat) (change : β → Except Halt β) : Except Halt (List β) := do
  let entry ← change (← read table i)
  return table.set i entry

def write (table : List β) (i : Nat) (entry : β) : Except Halt (List β) :=
  revise table i fun _ => .ok entry

/-- Puts an element behind those of a row. -/
def push (table : List (List β)) (i : Nat) (x : β) : Except Halt (List (List β)) :=
  revise table i fun row => .ok (row ++ [x])

theorem read_eq {table : List β} {i : Nat} {entry : β} (h : table[i]? = some entry) :
    read table i = .ok entry := by
  rw [read, h]

theorem read_map {keys : List κ} {f : κ → β} {i : Nat} {key : κ} (h : keys[i]? = some key) :
    read (keys.map f) i = .ok (f key) := by
  simp [read, h]

variable [DecidableEq κ]

theorem set_map {keys : List κ} (distinct : keys.Nodup) {f : κ → β} {i : Nat} {key : κ} {entry : β}
    (h : keys[i]? = some key) :
    (keys.map f).set i entry = keys.map (Function.update f key entry) := by
  refine List.ext_getElem (by simp) fun j hj hj' => ?_
  have inside : j < keys.length := by simpa using hj'
  obtain ⟨bound, rfl⟩ := List.getElem?_eq_some_iff.1 h
  rw [List.getElem_set, List.getElem_map, List.getElem_map]
  by_cases same : i = j
  · subst same
    simp
  · have apart : keys[j] ≠ keys[i] := fun equal =>
      same ((distinct.getElem_inj_iff).1 equal).symm
    rw [if_neg same, Function.update_of_ne apart]

theorem revise_map {keys : List κ} (distinct : keys.Nodup) {f : κ → β} {i : Nat} {key : κ}
    (h : keys[i]? = some key) {change : β → Except Halt β} (entry : β)
    (changed : change (f key) = .ok entry) :
    revise (keys.map f) i change = .ok (keys.map (Function.update f key entry)) := by
  rw [revise, read_map h, ok_bind, changed, ok_bind, set_map distinct h]
  rfl

/-- A change of one cell of a table of rows. -/
theorem revise_cells [DecidableEq ι] {keys : List κ} (distinct : keys.Nodup) (cells : κ → List ι)
    {f : κ → ι → β} {i j : Nat} {key : κ} (h : keys[i]? = some key) {cell : ι}
    (row : (cells key).Nodup) (h' : (cells key)[j]? = some cell) {change : β → Except Halt β}
    (entry : β) (changed : change (f key cell) = .ok entry) :
    revise (keys.map fun k => (cells k).map (f k)) i (fun row => revise row j change) =
      .ok (keys.map fun k =>
        (cells k).map (Function.update f key (Function.update (f key) cell entry) k)) := by
  rw [revise_map distinct h _ (revise_map row h' entry changed)]
  refine congrArg Except.ok (List.map_congr_left fun k _ => ?_)
  by_cases same : k = key
  · subst same
    simp
  · simp [same]

end Table

/-! ## Numbers of elements -/

section Numbering

variable {β : Type} {ident : β → String} {q : β → Bool} {key : β → Nat} {xs : List β} {x : β}

/-- The number of the first element with an identifier. -/
def numbering (ident : β → String) (xs : List β) (name : String) : Option Nat :=
  xs.findIdx? (ident · == name)

/-- The numbers of the elements that satisfy a condition. -/
def places (q : β → Bool) (xs : List β) : List Nat :=
  (xs.zipIdx.filter fun entry => q entry.1).map (·.2)

/-- For each element, how many before it have its key. -/
def ranks (key : β → Nat) (xs : List β) : List Nat :=
  xs.mapIdx fun i x => (xs.take i).countP (key · == key x)

theorem numbering_isSome {name : String} :
    (numbering ident xs name).isSome ↔ name ∈ xs.map ident := by
  rw [numbering, List.findIdx?_isSome]
  simp

theorem numbering_eq_ite {name : String} :
    numbering ident xs name =
      if xs.findIdx (ident · == name) < xs.length then some (xs.findIdx (ident · == name))
      else none := by
  rw [numbering, List.findIdx?_eq_guard_findIdx_lt]
  simp only [Option.guard, decide_eq_true_eq]

theorem numbering_eq_none {name : String} :
    numbering ident xs name = none ↔ name ∉ xs.map ident := by
  rw [← numbering_isSome, Option.not_isSome_iff_eq_none]

theorem numbering_eq_some (distinct : (xs.map ident).Nodup) {name : String} {i : Nat} :
    numbering ident xs name = some i ↔ ∃ x, xs[i]? = some x ∧ ident x = name := by
  rw [numbering, List.findIdx?_eq_some_iff_findIdx_eq]
  constructor
  · rintro ⟨inside, rfl⟩
    exact ⟨_, List.getElem?_eq_getElem inside, by simpa using List.findIdx_getElem (w := inside)⟩
  · rintro ⟨x, hx, rfl⟩
    exact ⟨(List.getElem?_eq_some_iff.1 hx).1, findIdx_key distinct hx⟩
theorem update_numbering (fresh : ident x ∉ xs.map ident) :
    Function.update (numbering ident xs) (ident x) (some xs.length) =
      numbering ident (xs ++ [x]) := by
  funext name
  rw [numbering, List.findIdx?_append]
  by_cases own : name = ident x
  · subst own
    have none : xs.findIdx? (ident · == ident x) = none := by
      rw [List.findIdx?_eq_none_iff]
      intro y hy
      exact beq_eq_false_iff_ne.2 fun same => fresh (same ▸ List.mem_map_of_mem hy)
    simp [none]
  · have other : ident x ≠ name := fun same => own same.symm
    simp [Function.update_of_ne own, numbering, other]

theorem places_append :
    places q (xs ++ [x]) = places q xs ++ if q x then [xs.length] else [] := by
  rw [places, List.zipIdx_append, List.filter_append, List.map_append]
  cases h : q x <;> simp [places, h]

theorem places_length : (places q xs).length = xs.countP q := by
  induction xs using List.reverseRecOn with
  | nil => rfl
  | append_singleton xs x ih =>
    rw [places_append, List.length_append, ih, List.countP_append, List.countP_singleton]
    split <;> rfl

theorem ranks_length (key : β → Nat) (xs : List β) : (ranks key xs).length = xs.length :=
  List.length_mapIdx

theorem ranks_append :
    ranks key (xs ++ [x]) = ranks key xs ++ [xs.countP (key · == key x)] := by
  rw [ranks, List.mapIdx_append]
  simp only [List.mapIdx_cons, List.mapIdx_nil, Nat.zero_add, List.take_left]
  congr 1
  refine List.ext_getElem? fun i => ?_
  rw [List.getElem?_mapIdx, ranks, List.getElem?_mapIdx]
  by_cases inside : i < xs.length
  · rw [List.take_append_of_le_length (Nat.le_of_lt inside)]
  · rw [List.getElem?_eq_none (Nat.le_of_not_lt inside), Option.map_none, Option.map_none]

/-- In a sorted list a repetition is one of the element just before. -/
theorem repeats_last (sorted : (xs ++ [x]).Pairwise fun a b => ident a ≤ ident b) :
    xs.reverse.head?.map ident = some (ident x) ↔ ident x ∈ xs.map ident := by
  rw [List.head?_reverse]
  cases xs using List.reverseRecOn with
  | nil => simp
  | append_singleton xs last =>
    rw [List.append_assoc, List.pairwise_append] at sorted
    have last_le : ident last ≤ ident x := by
      have ends := sorted.2.1
      simp only [List.cons_append, List.nil_append, List.pairwise_cons] at ends
      exact ends.1 x (by simp)
    rw [List.getLast?_append, List.getLast?_singleton]
    simp only [Option.some_or, Option.map_some, Option.some_inj, List.map_append, List.map_cons,
      List.map_nil, List.mem_append, List.mem_singleton, List.mem_map]
    constructor
    · exact fun same => .inr same.symm
    · rintro (⟨y, hy, same⟩ | same)
      · have le_last := sorted.2.2 y hy last (by simp)
        exact String.le_antisymm last_le (same ▸ le_last)
      · exact same.symm

end Numbering

/-! ## Loops -/

theorem Halt.settle_none {σ : Type} (state : σ) : settle none state = .ok state := rfl

theorem Halt.settle_bind {σ τ : Type} {first second : Option PlanningError} {state : σ}
    {next : σ → Except Halt τ} {result : τ} (h : first = none → next state = settle second result) :
    settle first state >>= next = settle (first <|> second) result := by
  cases first with
  | none => exact h rfl
  | some fault => rfl

/-- A loop that ends with the fault of the first element that has one. Here `later i` is the
fault of the elements from number `i` on. -/
theorem foldlM_settle {β σ : Type} (step : σ → β → Except Halt σ) (xs : List β)
    (state : Nat → σ) (later : Nat → Option PlanningError) (done : later xs.length = none)
    (next : ∀ i x, xs[i]? = some x → ∃ fault?, later i = (fault? <|> later (i + 1)) ∧
      step (state i) x = Halt.settle fault? (state (i + 1))) :
    xs.foldlM step (state 0) = Halt.settle (later 0) (state xs.length) := by
  -- by induction on the number of elements that are left
  have rest : ∀ k i, i + k = xs.length →
      (xs.drop i).foldlM step (state i) = Halt.settle (later i) (state xs.length) := by
    intro k
    induction k with
    | zero =>
      intro i hi
      have all : i = xs.length := by omega
      subst all
      rw [List.drop_length, List.foldlM_nil, done]
      rfl
    | succ k ih =>
      intro i hi
      have inside : i < xs.length := by omega
      obtain ⟨fault?, split, stepped⟩ := next i xs[i] (List.getElem?_eq_getElem inside)
      rw [List.drop_eq_getElem_cons inside, List.foldlM_cons, stepped, split]
      exact Halt.settle_bind fun _ => ih (i + 1) (by omega)
  exact rest xs.length 0 (by omega)

theorem foldlM_ok {β σ : Type} (step : σ → β → Except Halt σ) (xs : List β) (state : Nat → σ)
    (next : ∀ i x, xs[i]? = some x → step (state i) x = .ok (state (i + 1))) :
    xs.foldlM step (state 0) = .ok (state xs.length) :=
  foldlM_settle step xs state (fun _ => none) rfl fun i x h => ⟨none, rfl, next i x h⟩

theorem getElem?_zipIdx_eq_some {β : Type} {xs : List β} {i : Nat} {entry : β × Nat}
    (h : xs.zipIdx[i]? = some entry) : xs[i]? = some entry.1 ∧ entry.2 = i := by
  rw [List.getElem?_zipIdx, Option.map_eq_some_iff] at h
  obtain ⟨x, hx, rfl⟩ := h
  exact ⟨hx, Nat.zero_add i⟩

/-- A loop over numbered elements whose state is that of the elements it has seen. -/
theorem foldlM_firstFault {β σ : Type} {step : σ → β × Nat → Except Halt σ} {xs : List β}
    (state : List β → σ) {check : List β → β → Option PlanningError}
    (next : ∀ before x, before ++ [x] <+: xs → step (state before) (x, before.length) =
      Halt.settle (check before.reverse x) (state (before ++ [x]))) :
    xs.zipIdx.foldlM step (state []) = Halt.settle (firstFault check [] xs) (state xs) := by
  have loop := foldlM_settle step xs.zipIdx (fun i => state (xs.take i))
    (fun i => firstFault check (xs.take i).reverse (xs.drop i))
    (by rw [List.length_zipIdx, List.drop_length]; rfl)
    (by
      rintro i ⟨x, k⟩ h
      obtain ⟨hx, rfl : k = i⟩ := getElem?_zipIdx_eq_some h
      obtain ⟨inside, rfl⟩ := List.getElem?_eq_some_iff.1 hx
      have seen : xs.take k ++ [xs[k]] = xs.take (k + 1) := by rw [List.take_add_one, hx]; rfl
      have stepped := next (xs.take k) xs[k] (seen ▸ List.take_prefix _ _)
      rw [List.length_take_of_le (Nat.le_of_lt inside), seen] at stepped
      refine ⟨check (xs.take k).reverse xs[k], ?_, stepped⟩
      rw [List.drop_eq_getElem_cons inside, ← seen, List.reverse_append]
      rfl)
  simpa using loop

end SchemaNet
