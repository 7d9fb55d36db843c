import SchemaNet.Scalar.Basic

/-!
Seeded random numbers: a shift-register generator of four 64-bit words, and uniform
draws from any source of 32-bit words.
-/

namespace SchemaNet

/-- A source of 32-bit words: the state after a draw is part of the result. -/
class WordSource (σ : Type) where
  next : σ → UInt32 × σ

/-- Four words of state. -/
structure Generator where
  s0 : UInt64
  s1 : UInt64
  s2 : UInt64
  s3 : UInt64
  deriving DecidableEq, Repr

namespace Generator

/-- The words of the counter that spreads a seed over the state. -/
def spread (counter : UInt64) : UInt64 :=
  let z := (counter ^^^ (counter >>> 30)) * 0xbf58476d1ce4e5b9
  let z := (z ^^^ (z >>> 27)) * 0x94d049bb133111eb
  z ^^^ (z >>> 31)

def stride : UInt64 := 0x9e3779b97f4a7c15

def ofSeed (seed : UInt64) : Generator :=
  ⟨spread (seed + stride), spread (seed + 2 * stride), spread (seed + 3 * stride),
    spread (seed + 4 * stride)⟩

def rotate (word : UInt64) (places : UInt64) : UInt64 := (word <<< places) ||| (word >>> (64 - places))

def word (state : Generator) : UInt64 := rotate (state.s0 + state.s3) 23 + state.s0

def step (state : Generator) : Generator :=
  let s2 := state.s2 ^^^ state.s0
  let s3 := state.s3 ^^^ state.s1
  ⟨state.s0 ^^^ s3, state.s1 ^^^ s2, s2 ^^^ (state.s1 <<< 17), rotate s3 45⟩

/-- The upper half of each word is the better one. -/
instance : WordSource Generator where
  next state := ((state.word >>> 32).toUInt32, state.step)

end Generator

namespace Uniform

variable {α σ : Type} [Scalar α] [WordSource σ]

/-- The leading `bits` bits of a word as a fraction of one. -/
def fraction (bits : Nat) (word : UInt32) : α :=
  Scalar.ofNat (word.toNat >>> (32 - bits)) / Scalar.ofNat (Nat.pow 2 bits)

/-- A draw from `[0, 1)`. -/
def unit : StateM σ α := do
  return fraction 24 (← modifyGet WordSource.next)

def symmetric (limit : α) : StateM σ α := do
  return fraction 23 (← modifyGet WordSource.next) * (limit - -limit) + -limit

/-- Puts `n` more draws in front of those that were `drawn`, the last one first. -/
def push (draw : StateM σ α) {total : Nat} : (n : Nat) → (drawn : List α) →
    (count : drawn.length + n = total) → StateM σ { draws : List α // draws.length = total }
  | 0, drawn, count => return ⟨drawn, count⟩
  | n + 1, drawn, count => do
    push draw n ((← draw) :: drawn) (by rw [List.length_cons]; omega)

/-- As many draws as asked for, in order. -/
def many (draw : StateM σ α) (n : Nat) : StateM σ { draws : List α // draws.length = n } := do
  let drawn ← push draw n [] (Nat.zero_add n)
  return ⟨drawn.1.reverse, by rw [List.length_reverse, drawn.2]⟩

end Uniform

end SchemaNet
