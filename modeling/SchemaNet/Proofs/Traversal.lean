import Mathlib.Data.List.Forall2
import SchemaNet.Network.Memory

/-!
Computations that may fail, alone and on every element of a list. A success of the
whole is a success of every part.
-/

namespace SchemaNet
open Memory (bind_eq_ok)

variable {β γ δ ε : Type}

theorem ok_bind {value : β} {next : β → Except ε γ} :
    ((.ok value : Except ε β) >>= next) = next value := rfl

theorem pure_eq_ok {value : β} : (pure value : Except ε β) = .ok value := rfl

theorem mapM_eq_ok {f : β → Except ε γ} {xs : List β} {ys : List γ} :
    xs.mapM f = .ok ys ↔ List.Forall₂ (fun x y => f x = .ok y) xs ys := by
  induction xs generalizing ys with
  | nil => cases ys <;> simp [pure_eq_ok]
  | cons x rest ih =>
    simp only [List.mapM_cons, bind_eq_ok, pure_eq_ok, ih, Except.ok.injEq,
      List.forall₂_cons_left_iff]
    constructor
    · rintro ⟨y, hy, others, hothers, rfl⟩
      exact ⟨y, others, hy, hothers, rfl⟩
    · rintro ⟨y, others, hy, hothers, rfl⟩
      exact ⟨y, hy, others, hothers, rfl⟩

theorem mapM_length {f : β → Except ε γ} {xs : List β} {ys : List γ} (h : xs.mapM f = .ok ys) :
    ys.length = xs.length :=
  (mapM_eq_ok.1 h).length_eq.symm

theorem mapM_getElem? {f : β → Except ε γ} {xs : List β} {ys : List γ} (h : xs.mapM f = .ok ys)
    {i : Nat} {x : β} (hx : xs[i]? = some x) : ∃ y, ys[i]? = some y ∧ f x = .ok y := by
  obtain ⟨inside, rfl⟩ := List.getElem?_eq_some_iff.1 hx
  have bound : i < ys.length := by rw [mapM_length h]; exact inside
  exact ⟨ys[i], List.getElem?_eq_getElem bound, (mapM_eq_ok.1 h).get inside bound⟩

/-- A list is traversed if each of its elements can be. -/
theorem exists_mapM {f : β → Except ε γ} {xs : List β} {good : β → γ → Prop}
    (h : ∀ x ∈ xs, ∃ y, f x = .ok y ∧ good x y) :
    ∃ ys, xs.mapM f = .ok ys ∧ List.Forall₂ good xs ys := by
  induction xs with
  | nil => exact ⟨[], rfl, .nil⟩
  | cons x rest ih =>
    obtain ⟨y, hy, first⟩ := h x List.mem_cons_self
    obtain ⟨ys, hys, others⟩ := ih fun z hz => h z (List.mem_cons_of_mem _ hz)
    exact ⟨y :: ys, by rw [List.mapM_cons, hy, hys]; rfl, .cons first others⟩

theorem exists_mapM_iff {f : β → Except ε γ} {xs : List β} :
    (∃ ys, xs.mapM f = .ok ys) ↔ ∀ x ∈ xs, ∃ y, f x = .ok y := by
  constructor
  · rintro ⟨ys, h⟩ x hx
    obtain ⟨i, hi⟩ := List.getElem?_of_mem hx
    obtain ⟨y, -, hy⟩ := mapM_getElem? h hi
    exact ⟨y, hy⟩
  · intro h
    have each : ∀ x ∈ xs, ∃ y, f x = .ok y ∧ True :=
      fun x hx => (h x hx).imp fun _ hy => ⟨hy, trivial⟩
    obtain ⟨ys, hys, -⟩ := exists_mapM each
    exact ⟨ys, hys⟩

theorem mapM_eq_ok_map {f : β → Except ε γ} {g : β → γ} {xs : List β}
    (h : ∀ x ∈ xs, f x = .ok (g x)) : xs.mapM f = .ok (xs.map g) := by
  rw [mapM_eq_ok, List.forall₂_map_right_iff, List.forall₂_same]
  exact h

theorem forM_eq_ok {f : β → Except ε Unit} {xs : List β} :
    xs.forM f = .ok () ↔ ∀ x ∈ xs, f x = .ok () := by
  induction xs with
  | nil => simp [pure_eq_ok]
  | cons x rest ih =>
    change (f x >>= fun _ => rest.forM f) = .ok () ↔ _
    rw [bind_eq_ok, List.forall_mem_cons, ← ih]
    exact ⟨fun ⟨_, first, others⟩ => ⟨first, others⟩, fun ⟨first, others⟩ => ⟨(), first, others⟩⟩

/-- The first of several elements is where something holds, or it lies behind the first. -/
theorem exists_first_cons {stops passes : β → Prop} {x : β} {rest : List β} :
    (∃ (i : Nat) (y : β), (x :: rest)[i]? = some y ∧ stops y ∧
        ∀ j < i, ∀ z, (x :: rest)[j]? = some z → passes z) ↔
      stops x ∨ passes x ∧ ∃ (i : Nat) (y : β), rest[i]? = some y ∧ stops y ∧
        ∀ j < i, ∀ z, rest[j]? = some z → passes z := by
  constructor
  · rintro ⟨i, y, place, stopped, passed⟩
    cases i with
    | zero =>
      obtain rfl := Option.some.inj place
      exact .inl stopped
    | succ i =>
      exact .inr ⟨passed 0 (Nat.succ_pos i) x rfl, i, y, place, stopped,
        fun j before z hz => passed (j + 1) (Nat.succ_lt_succ before) z hz⟩
  · rintro (stopped | ⟨first, i, y, place, stopped, passed⟩)
    · exact ⟨0, x, rfl, stopped, fun _ before => absurd before (Nat.not_lt_zero _)⟩
    · refine ⟨i + 1, y, place, stopped, fun j before z hz => ?_⟩
      cases j with
      | zero =>
        obtain rfl := Option.some.inj hz
        exact first
      | succ j => exact passed j (Nat.lt_of_succ_lt_succ before) z hz

/-- A loop of checks stops at the first one that fails. -/
theorem forM_eq_error {f : β → Except ε Unit} {xs : List β} {fault : ε} :
    xs.forM f = .error fault ↔ ∃ (i : Nat) (x : β), xs[i]? = some x ∧ f x = .error fault ∧
      ∀ j < i, ∀ y, xs[j]? = some y → f y = .ok () := by
  induction xs with
  | nil => simp [pure_eq_ok]
  | cons x rest ih =>
    change (f x >>= fun _ => rest.forM f) = .error fault ↔ _
    rw [exists_first_cons, ← ih]
    cases checked : f x with
    | error found => simp [bind, Except.bind]
    | ok _ => simp [ok_bind]

theorem bind_eq_error {first : Except ε β} {next : β → Except ε γ} {fault : ε} :
    first >>= next = .error fault ↔
      first = .error fault ∨ ∃ value, first = .ok value ∧ next value = .error fault := by
  cases first with
  | error found => simp [bind, Except.bind]
  | ok value => simp [ok_bind]

theorem exists_bind_iff {first : Except ε β} {next : β → Except ε γ} :
    (∃ result, (first >>= next) = .ok result) ↔
      ∃ value, first = .ok value ∧ ∃ result, next value = .ok result := by
  simp only [bind_eq_ok]
  exact ⟨fun ⟨result, value, h, hnext⟩ => ⟨value, h, result, hnext⟩,
    fun ⟨value, h, result, hnext⟩ => ⟨result, value, h, hnext⟩⟩

theorem check_bind_eq_ok {check : Except ε Unit} {next : Unit → Except ε γ} {result : γ} :
    check >>= next = .ok result ↔ check = .ok () ∧ next () = .ok result :=
  bind_eq_ok.trans ⟨fun ⟨_, h⟩ => h, fun h => ⟨(), h⟩⟩

theorem exists_check_iff {check : Except ε Unit} {next : Unit → Except ε γ} :
    (∃ result, (check >>= next) = .ok result) ↔
      check = .ok () ∧ ∃ result, next () = .ok result := by
  rw [exists_bind_iff]
  exact ⟨fun ⟨_, h⟩ => h, fun h => ⟨(), h⟩⟩

/-- A traversal fails at the first element that fails. -/
theorem mapM_eq_error {f : β → Except ε γ} {xs : List β} {fault : ε} :
    xs.mapM f = .error fault ↔ ∃ (i : Nat) (x : β), xs[i]? = some x ∧ f x = .error fault ∧
      ∀ j < i, ∀ y, xs[j]? = some y → ∃ z, f y = .ok z := by
  induction xs with
  | nil => simp [pure_eq_ok]
  | cons x rest ih =>
    rw [List.mapM_cons, exists_first_cons, ← ih, bind_eq_error]
    cases first : f x with
    | error found => simp
    | ok value => simp [bind_eq_error, pure_eq_ok]

theorem exists_of_mapM_eq_error {f : β → Except ε γ} {xs : List β} {fault : ε}
    (h : xs.mapM f = .error fault) : ∃ x ∈ xs, f x = .error fault := by
  obtain ⟨_, x, place, failed, -⟩ := mapM_eq_error.1 h
  exact ⟨x, List.mem_of_getElem? place, failed⟩

/-- A computation that is made only under a condition, and its value at most once. -/
theorem bind_guarded {flag : Prop} [Decidable flag] {first : Except ε β}
    {next : List β → Except ε γ} :
    (if flag then do let own ← pure [← first]; next own else do let own ← pure []; next own) =
      (if flag then do pure [← first] else pure []) >>= next := by
  split
  · cases first <;> rfl
  · rfl

theorem mapError_eq_ok {f : ε → δ} {result : Except ε β} {value : β} :
    result.mapError f = .ok value ↔ result = .ok value := by
  cases result with
  | error fault => exact ⟨(fun h => nomatch h), (fun h => nomatch h)⟩
  | ok own =>
    show Except.ok own = Except.ok value ↔ _
    rw [Except.ok.injEq, Except.ok.injEq]

theorem mapError_eq_error {f : ε → δ} {result : Except ε β} {fault : δ} :
    result.mapError f = .error fault ↔ ∃ own, result = .error own ∧ f own = fault := by
  cases result <;> simp [Except.mapError]

/-! ## Computations without a further effect -/

theorem run_bind {first : ExceptT ε Id β} {next : β → ExceptT ε Id γ} :
    (first >>= next).run = (first.run >>= fun value => (next value).run : Except ε γ) := by
  rw [ExceptT.run_bind]
  rcases first.run with fault | value <;> rfl

theorem mapM_run {f : β → ExceptT ε Id γ} {g : β → Except ε γ} (same : ∀ x, (f x).run = g x)
    (xs : List β) : (xs.mapM f).run = xs.mapM g := by
  induction xs with
  | nil => rfl
  | cons x rest ih =>
    rw [List.mapM_cons, List.mapM_cons, run_bind, same]
    refine congrArg _ (funext fun y => ?_)
    rw [run_bind, ih]
    rfl

end SchemaNet
