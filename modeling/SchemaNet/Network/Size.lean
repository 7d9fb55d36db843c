import SchemaNet.Network.Error

/-!
The sizes that fit the words of a machine. A size that is computed must be a word of 64 bits;
the positions of an array, with empty dimensions left out, and its bytes must be numbers of
63 bits.
-/

namespace SchemaNet.Size

variable {α : Type}

def wordLimit : Nat := Nat.pow 2 64

/-- The greatest number of positions and of bytes. -/
def greatest : Nat := Nat.pow 2 63 - 1

def entryBytes : Nat := 4

def total (sizes : List Nat) : Nat := sizes.foldr (· + ·) 0

@[simp] theorem total_nil : total [] = 0 := rfl

@[simp] theorem total_cons (size : Nat) (rest : List Nat) :
    total (size :: rest) = size + total rest := rfl

@[simp] theorem total_append (sizes others : List Nat) :
    total (sizes ++ others) = total sizes + total others := by
  induction sizes with
  | nil => rw [List.nil_append, total_nil, Nat.zero_add]
  | cons size rest ih => rw [List.cons_append, total_cons, total_cons, ih, Nat.add_assoc]

def product (dims : List Nat) : Nat := dims.foldl (· * ·) 1

/-- The number of positions when empty dimensions are left out. -/
def extent (dims : List Nat) : Nat := product (dims.filter (· ≠ 0))

/-- Whether the positions of an array can be numbered. -/
def isIndexable (dims : List Nat) : Bool := extent dims ≤ greatest

/-- Whether the entries of an array, which has so many of them, can be stored. -/
def isStorable (dims : List Nat) : Bool := isIndexable dims && entryBytes * product dims ≤ greatest

def require (possible : Bool) : Except (NetworkError α) Unit :=
  if possible then .ok () else .error .outOfRange

theorem require_eq_ok {possible : Bool} :
    (require possible : Except (NetworkError α) Unit) = .ok () ↔ possible := by
  cases possible <;> simp [require]

def word (size : Nat) : Except (NetworkError α) Nat :=
  if size < wordLimit then .ok size else .error .outOfRange

theorem word_eq_ok {size result : Nat} :
    (word size : Except (NetworkError α) Nat) = .ok result ↔ size < wordLimit ∧ size = result := by
  unfold word
  split
  · next fits => simp [fits]
  · next beyond => simp [beyond]

end SchemaNet.Size
