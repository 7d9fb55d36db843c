import Mathlib.Data.List.Forall2
import Mathlib.Data.List.Induction
import Mathlib.Data.List.Nodup

/-!
Lists whose elements are known by a key that does not repeat, and the places of the
elements that satisfy a condition. Tables hold places; these lemmas read the
elements back.
-/

namespace SchemaNet

variable {β γ κ : Type}

section Keys

variable [BEq κ] [LawfulBEq κ] {key : β → κ} {xs : List β}

theorem find?_key_eq_some (distinct : (xs.map key).Nodup) {k : κ} {x : β} :
    xs.find? (key · == k) = some x ↔ x ∈ xs ∧ key x = k := by
  constructor
  · intro h
    exact ⟨List.mem_of_find?_eq_some h, by simpa using List.find?_some h⟩
  · rintro ⟨h, rfl⟩
    have found : (xs.find? (key · == key x)).isSome := List.find?_isSome.2 ⟨x, h, by simp⟩
    obtain ⟨other, hother⟩ := Option.isSome_iff_exists.1 found
    have same : key other = key x := by simpa using List.find?_some hother
    rw [hother, List.inj_on_of_nodup_map distinct (List.mem_of_find?_eq_some hother) h same]

theorem find?_key_eq_none {k : κ} : xs.find? (key · == k) = none ↔ k ∉ xs.map key := by
  rw [List.find?_eq_none]
  simp

theorem findIdx_key (distinct : (xs.map key).Nodup) {i : Nat} {x : β} (h : xs[i]? = some x) :
    xs.findIdx (key · == key x) = i := by
  obtain ⟨inside, rfl⟩ := List.getElem?_eq_some_iff.1 h
  rw [List.findIdx_eq inside]
  refine ⟨by simp, fun j hj => ?_⟩
  have before : j < (xs.map key).length := by rw [List.length_map]; omega
  have own : i < (xs.map key).length := by rw [List.length_map]; omega
  have apart : (xs.map key)[j] ≠ (xs.map key)[i] :=
    fun same => absurd ((List.Nodup.getElem_inj_iff distinct).1 same) (by omega)
  simpa using apart

theorem getElem?_findIdx_key (distinct : (xs.map key).Nodup) {x : β} (h : x ∈ xs) :
    xs[xs.findIdx (key · == key x)]? = some x := by
  obtain ⟨i, hi⟩ := List.getElem?_of_mem h
  rw [findIdx_key distinct hi, hi]

/-- A list beside the keyed one, read through the places of the keys. -/
theorem map_getD_findIdx (distinct : (xs.map key).Nodup) {ys : List γ} {d : γ}
    (size : ys.length = xs.length) :
    xs.map (fun x => ys.getD (xs.findIdx (key · == key x)) d) = ys := by
  refine List.ext_getElem (by rw [List.length_map, size]) fun i hi hi' => ?_
  have inside : i < xs.length := by rwa [List.length_map] at hi
  rw [List.getElem_map, findIdx_key distinct (List.getElem?_eq_getElem inside),
    List.getD_eq_getElem?_getD, List.getElem?_eq_getElem hi', Option.getD_some]

end Keys

/-! ## Places -/

theorem zipIdx_pairwise (xs : List β) (n : Nat) :
    (xs.zipIdx n).Pairwise fun a b => a.2 < b.2 := by
  have places : (List.range' n xs.length).Pairwise (· < ·) := List.pairwise_lt_range'
  rwa [← List.zipIdx_map_snd, List.pairwise_map] at places

/-- The elements of a list that stand at the given places. -/
abbrev Picks (xs : List β) : List Nat → List β → Prop :=
  List.Forall₂ fun i x => xs[i]? = some x

theorem picks_iff_map {xs picked : List β} {places : List Nat} :
    Picks xs places picked ↔ places.map (xs[·]?) = picked.map some := by
  rw [Picks, ← List.forall₂_eq_eq_eq, List.forall₂_map_left_iff, List.forall₂_map_right_iff]

theorem picks_range (xs : List β) : Picks xs (List.range xs.length) xs := by
  refine picks_iff_map.2 (List.ext_getElem? fun i => ?_)
  by_cases inside : i < xs.length
  · simp [inside]
  · simp [Nat.le_of_not_lt inside]

theorem map_range_getD (xs : List β) (d : β) : (List.range xs.length).map (xs.getD · d) = xs := by
  refine List.ext_getElem? fun i => ?_
  by_cases inside : i < xs.length
  · simp [inside]
  · simp [Nat.le_of_not_lt inside]

theorem flatMap_range_getElem? (xs : List β) (f : β → List γ) :
    ((List.range xs.length).flatMap fun i => ((xs[i]?).map f).getD []) = xs.flatMap f := by
  have parts := map_range_getD (xs.map f) []
  rw [List.length_map] at parts
  rw [List.flatMap_def, List.flatMap_def, ← parts]
  refine congrArg List.flatten (List.map_congr_left fun i _ => ?_)
  rw [List.getD_eq_getElem?_getD, List.getElem?_map]

theorem Picks.lt {xs picked : List β} {places : List Nat} (h : Picks xs places picked) {i : Nat}
    (hi : i ∈ places) : i < xs.length := by
  obtain ⟨k, hk, rfl⟩ := List.getElem_of_mem hi
  exact (List.getElem?_eq_some_iff.1 (h.get hk (by rw [← h.length_eq]; exact hk))).1

theorem Picks.getElem?_idxOf {xs picked : List β} {places : List Nat} (h : Picks xs places picked)
    {i : Nat} (hi : i ∈ places) : picked[places.idxOf i]? = xs[i]? := by
  obtain ⟨bound, place⟩ := List.getElem?_eq_some_iff.1 (List.getElem?_idxOf hi)
  have inside : places.idxOf i < picked.length := by rw [← h.length_eq]; exact bound
  have read := h.get bound inside
  rw [List.get_eq_getElem, place] at read
  rw [read]
  exact List.getElem?_eq_getElem inside

/-- The places of the elements that satisfy `q`. -/
theorem picks_filter_range {xs : List β} {p : Nat → Bool} {q : β → Bool}
    (same : ∀ i x, xs[i]? = some x → p i = q x) :
    Picks xs ((List.range xs.length).filter p) (xs.filter q) := by
  have lifted : ∀ i ∈ List.range xs.length, p i = (xs[i]?).any q := by
    intro i hi
    have inside : i < xs.length := List.mem_range.1 hi
    rw [List.getElem?_eq_getElem inside, same i xs[i] (List.getElem?_eq_getElem inside),
      Option.any_some]
  have pulled : ((List.range xs.length).filter fun i => (xs[i]?).any q).map (xs[·]?)
      = ((List.range xs.length).map (xs[·]?)).filter (Option.any q) :=
    (List.filter_map (f := fun i => xs[i]?) (p := Option.any q)).symm
  rw [picks_iff_map, List.filter_congr lifted, pulled, picks_iff_map.1 (picks_range xs),
    List.filter_map]
  rfl

/-- The places of the elements that satisfy `q`, found by counting along the list. -/
theorem filter_zipIdx_places (xs : List β) (q : β → Bool) :
    (xs.zipIdx.filter fun entry => q entry.1).map (·.2)
      = (List.range xs.length).filter fun i => (xs[i]?).any q := by
  induction xs using List.reverseRecOn with
  | nil => rfl
  | append_singleton xs x ih =>
    have before : ((List.range xs.length).filter fun i => ((xs ++ [x])[i]?).any q)
        = (List.range xs.length).filter fun i => (xs[i]?).any q := by
      refine List.filter_congr fun i hi => ?_
      rw [List.getElem?_append_left (List.mem_range.1 hi)]
    rw [List.zipIdx_append, List.filter_append, List.map_append, ih, List.length_append,
      List.length_singleton, List.range_succ, List.filter_append, before]
    cases h : q x <;> simp [h]

theorem filter_zipIdx_idxOf [BEq β] [LawfulBEq β] {xs : List β} (distinct : xs.Nodup)
    (q : β → Bool) :
    (xs.zipIdx.filter fun entry => q entry.1).map (·.2) = (xs.filter q).map xs.idxOf := by
  have places : ∀ entry ∈ xs.zipIdx, entry.2 = xs.idxOf entry.1 := by
    rintro ⟨x, i⟩ mem
    obtain ⟨inside, rfl⟩ := List.getElem?_eq_some_iff.1 (List.mk_mem_zipIdx_iff_getElem?.1 mem)
    exact (distinct.idxOf_getElem i inside).symm
  have elements : (xs.zipIdx.filter fun entry => q entry.1).map (·.1) = xs.filter q := by
    conv_rhs => rw [← List.zipIdx_map_fst 0 xs, List.filter_map]
    rfl
  rw [← elements, List.map_map]
  exact List.map_congr_left fun entry mem => places entry (List.mem_filter.1 mem).1

/-- The places along one list of what satisfies `p`, used on a second list that runs
beside it. -/
theorem picks_filter_zipIdx {ids : List γ} {xs : List β} {p : γ → Bool} {q : β → Bool}
    (beside : List.Forall₂ (fun id x => p id = q x) ids xs) :
    Picks xs ((ids.zipIdx.filter fun entry => p entry.1).map (·.2)) (xs.filter q) := by
  rw [filter_zipIdx_places, beside.length_eq]
  refine picks_filter_range fun i x hx => ?_
  obtain ⟨inside, rfl⟩ := List.getElem?_eq_some_iff.1 hx
  have bound : i < ids.length := by rw [beside.length_eq]; exact inside
  rw [List.getElem?_eq_getElem bound, Option.any_some]
  exact beside.get bound inside

theorem forall₂_filterMap {f : β → Option γ} {xs : List β} (h : ∀ x ∈ xs, ∃ y, f x = some y) :
    List.Forall₂ (fun x y => f x = some y) xs (xs.filterMap f) := by
  induction xs with
  | nil => exact .nil
  | cons x rest ih =>
    obtain ⟨y, hy⟩ := h x List.mem_cons_self
    rw [List.filterMap_cons_some hy]
    exact .cons hy (ih fun z hz => h z (List.mem_cons_of_mem _ hz))

theorem exists_forall₂ {R : β → γ → Prop} {xs : List β} (h : ∀ x ∈ xs, ∃ y, R x y) :
    ∃ ys, List.Forall₂ R xs ys := by
  induction xs with
  | nil => exact ⟨[], .nil⟩
  | cons x rest ih =>
    obtain ⟨y, hy⟩ := h x List.mem_cons_self
    obtain ⟨ys, others⟩ := ih fun z hz => h z (List.mem_cons_of_mem _ hz)
    exact ⟨y :: ys, .cons hy others⟩

theorem forall₂_getElem? {R : β → γ → Prop} {xs : List β} {ys : List γ} (h : List.Forall₂ R xs ys)
    {i : Nat} {y : γ} (hy : ys[i]? = some y) : ∃ x, xs[i]? = some x ∧ R x y := by
  obtain ⟨inside, rfl⟩ := List.getElem?_eq_some_iff.1 hy
  have bound : i < xs.length := by rw [h.length_eq]; exact inside
  exact ⟨xs[i], List.getElem?_eq_getElem bound, h.get bound inside⟩

theorem forall₂_mem_left {R : β → γ → Prop} {xs : List β} {ys : List γ} (h : List.Forall₂ R xs ys)
    {x : β} (hx : x ∈ xs) : ∃ y ∈ ys, R x y := by
  obtain ⟨i, hi, rfl⟩ := List.getElem_of_mem hx
  have bound : i < ys.length := by rw [← h.length_eq]; exact hi
  exact ⟨ys[i], List.getElem_mem bound, h.get hi bound⟩

theorem forall₂_mem_right {R : β → γ → Prop} {xs : List β} {ys : List γ} (h : List.Forall₂ R xs ys)
    {y : γ} (hy : y ∈ ys) : ∃ x ∈ xs, R x y := by
  obtain ⟨i, hi, rfl⟩ := List.getElem_of_mem hy
  have bound : i < xs.length := by rw [h.length_eq]; exact hi
  exact ⟨xs[i], List.getElem_mem bound, h.get bound hi⟩

theorem forall₂_imp_mem {R S : β → γ → Prop} {xs : List β} {ys : List γ} (h : List.Forall₂ R xs ys)
    (step : ∀ x ∈ xs, ∀ y, R x y → S x y) : List.Forall₂ S xs ys := by
  induction h with
  | nil => exact .nil
  | cons first _ ih =>
    exact .cons (step _ List.mem_cons_self _ first)
      (ih fun x hx => step x (List.mem_cons_of_mem _ hx))

theorem forall₂_trans {δ : Type} {R : β → γ → Prop} {S : γ → δ → Prop} {T : β → δ → Prop}
    {xs : List β} {ys : List γ} {zs : List δ} (h : List.Forall₂ R xs ys)
    (h' : List.Forall₂ S ys zs) (step : ∀ x y z, R x y → S y z → T x z) :
    List.Forall₂ T xs zs := by
  induction h generalizing zs with
  | nil =>
    cases h'
    exact .nil
  | cons first _ ih =>
    cases h' with
    | cons second others => exact .cons (step _ _ _ first second) (ih others)

/-- What determines the elements of a list without repetition does not repeat either. -/
theorem nodup_of_forall₂ {R : β → γ → Prop} (determines : ∀ x x' y, R x y → R x' y → x = x')
    {xs : List β} {ys : List γ} (h : List.Forall₂ R xs ys) (distinct : xs.Nodup) : ys.Nodup := by
  induction h with
  | nil => exact .nil
  | cons first others ih =>
    rw [List.nodup_cons] at distinct ⊢
    refine ⟨fun mem => ?_, ih distinct.2⟩
    obtain ⟨x, hx, same⟩ := forall₂_mem_right others mem
    exact distinct.1 (determines _ _ _ first same ▸ hx)

/-! ## Lists put behind each other -/

/-- What stands before the first mark, and what begins there, are told apart. -/
theorem append_mark_inj {mark : β} {first other rest tail : List β} (free : mark ∉ first)
    (free' : mark ∉ other) (starts : ∀ c ∈ rest.head?, c = mark)
    (starts' : ∀ c ∈ tail.head?, c = mark) (h : first ++ rest = other ++ tail) :
    first = other ∧ rest = tail := by
  have ends : ∀ {more rest tail : List β}, mark ∉ more → (∀ c ∈ rest.head?, c = mark) →
      rest = more ++ tail → more = [] := by
    intro more rest tail free starts same
    cases more with
    | nil => rfl
    | cons c more =>
      subst same
      obtain rfl := starts c rfl
      exact absurd List.mem_cons_self free
  rcases List.append_eq_append_iff.1 h with ⟨more, rfl, same⟩ | ⟨more, rfl, same⟩
  · obtain rfl := ends (fun mem => free' (List.mem_append_right _ mem)) starts same
    exact ⟨(List.append_nil _).symm, same⟩
  · obtain rfl := ends (fun mem => free (List.mem_append_right _ mem)) starts' same
    exact ⟨List.append_nil _, same.symm⟩

theorem getElem?_flatMap_range_offset {part : Nat → List β} {n k i : Nat} (h : k < n)
    (inside : i < (part k).length) :
    ((List.range n).flatMap part)[((List.range k).flatMap part).length + i]? = (part k)[i]? := by
  induction n with
  | zero => omega
  | succ n ih =>
    rw [List.range_succ, List.flatMap_append, List.flatMap_singleton]
    rcases Nat.lt_succ_iff_lt_or_eq.1 h with before | rfl
    · have place := ih before
      rw [List.getElem?_eq_getElem inside] at place
      rw [List.getElem?_append_left (List.getElem?_eq_some_iff.1 place).1, place,
        List.getElem?_eq_getElem inside]
    · rw [List.getElem?_append_right (Nat.le_add_right _ _), Nat.add_sub_cancel_left]

end SchemaNet
