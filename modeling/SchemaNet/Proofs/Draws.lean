import SchemaNet.Random

/-!
The stream of words that a source gives. Which words are drawn and what is left of the source
depends only on how many there are, so draws in portions are the draws of all of them at once.
-/

namespace SchemaNet

namespace WordSource

variable {σ : Type} [WordSource σ]

/-- The first words from a state on. -/
def words : (count : Nat) → (state : σ) → List UInt32
  | 0, _ => []
  | count + 1, state => (next state).1 :: words count (next state).2

/-- The state after so many words. -/
def after : (count : Nat) → (state : σ) → σ
  | 0, state => state
  | count + 1, state => after count (next state).2

variable (m n : Nat) (state : σ)

@[simp] theorem length_words : (words n state).length = n := by
  induction n generalizing state with
  | zero => rfl
  | succ n ih => rw [words, List.length_cons, ih]

theorem words_add : words (m + n) state = words m state ++ words n (after m state) := by
  induction m generalizing state with
  | zero => rw [Nat.zero_add, words, after, List.nil_append]
  | succ m ih => rw [Nat.succ_add, words, words, after, ih, List.cons_append]

theorem after_add : after (m + n) state = after n (after m state) := by
  induction m generalizing state with
  | zero => rw [Nat.zero_add, after]
  | succ m ih => rw [Nat.succ_add, after, after, ih]

end WordSource

namespace Uniform

open WordSource (words after)

variable {α σ : Type} [WordSource σ] {draw : StateM σ α} {value : UInt32 → α}

/-- A draw that makes its value of one word. -/
def Takes (draw : StateM σ α) (value : UInt32 → α) : Prop :=
  ∀ state, draw.run state = (value (WordSource.next state).1, (WordSource.next state).2)

theorem Takes.push (h : Takes draw value) {total n : Nat} {drawn : List α}
    (count : drawn.length + n = total) (state : σ) :
    ((Uniform.push draw n drawn count).run state).1.1 =
        ((words n state).map value).reverse ++ drawn ∧
      ((Uniform.push draw n drawn count).run state).2 = after n state := by
  induction n generalizing drawn state with
  | zero => exact ⟨rfl, rfl⟩
  | succ n ih =>
    have later : (value (WordSource.next state).1 :: drawn).length + n = total := by
      rw [List.length_cons, Nat.add_right_comm]
      exact count
    have first : (Uniform.push draw (n + 1) drawn count).run state =
        (Uniform.push draw n _ later).run (WordSource.next state).2 := by
      rw [Uniform.push, StateT.run_bind, h state]
      rfl
    obtain ⟨values, last⟩ := ih later (WordSource.next state).2
    rw [first, values, last, words, after, List.map_cons, List.reverse_cons, List.append_assoc,
      List.singleton_append]
    exact ⟨rfl, rfl⟩

/-- Several draws take as many words, in order. -/
theorem Takes.many (h : Takes draw value) (n : Nat) (state : σ) :
    ((Uniform.many draw n).run state).1.1 = (words n state).map value ∧
      ((Uniform.many draw n).run state).2 = after n state := by
  have count : ([] : List α).length + n = n := Nat.zero_add n
  obtain ⟨values, last⟩ := h.push count state
  refine ⟨?_, last⟩
  show ((Uniform.push draw n [] _).run state).1.1.reverse = _
  rw [values, List.append_nil, List.reverse_reverse]

theorem unit_takes [Scalar α] : Takes (σ := σ) (Uniform.unit : StateM σ α) (fraction 24) :=
  fun _ => rfl

/-- What a word is in the range around zero with the given limit. -/
def inRange [Scalar α] (limit : α) (word : UInt32) : α :=
  fraction 23 word * (limit - -limit) + -limit

theorem symmetric_takes [Scalar α] (limit : α) :
    Takes (σ := σ) (Uniform.symmetric limit) (inRange limit) :=
  fun _ => rfl

end Uniform

end SchemaNet
