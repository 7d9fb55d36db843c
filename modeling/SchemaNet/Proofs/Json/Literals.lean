import Mathlib.Data.List.TakeDrop
import SchemaNet.Json.Reader
import SchemaNet.Json.Writer

/-!
Numbers and strings in JSON text. What is written for a number of the JSON grammar or for a
string is read back, and nothing of what follows is taken along.
-/

namespace SchemaNet.Json

/-! ## Digits -/

def NoDigit (text : List Char) : Prop := ∀ c ∈ text.head?, ¬c.isDigit

/-- The end of the text or what can follow a value inside of another one. -/
def Ends (text : List Char) : Prop := ∀ c ∈ text.head?, c = ',' ∨ c = ']' ∨ c = '\x7d'

theorem Ends.noDigit {text : List Char} (h : Ends text) : NoDigit text := by
  intro c hc
  rcases h c hc with rfl | rfl | rfl <;> decide

theorem takeWhile_digits {digits rest : List Char} (each : ∀ c ∈ digits, c.isDigit)
    (ends : NoDigit rest) : (digits ++ rest).takeWhile Char.isDigit = digits := by
  rw [List.takeWhile_append_of_pos each]
  cases rest with
  | nil => simp
  | cons c more =>
    have stop : ¬c.isDigit := ends c (by simp)
    simp [stop]

theorem readDigits_append {digits rest : List Char} (nonempty : digits ≠ [])
    (each : ∀ c ∈ digits, c.isDigit) (ends : NoDigit rest) :
    readDigits (digits ++ rest) = some (digits, rest) := by
  have taken := takeWhile_digits each ends
  have dropped : (digits ++ rest).dropWhile Char.isDigit = rest := by
    have whole := List.takeWhile_append_dropWhile (p := Char.isDigit) (l := digits ++ rest)
    rw [taken] at whole
    exact List.append_cancel_left whole
  unfold readDigits
  rw [taken, dropped]
  cases digits with
  | nil => exact absurd rfl nonempty
  | cons c more => rfl

/-! ## Numbers -/

namespace Number

/-- A number of the JSON grammar. -/
structure WellFormed (number : Number) : Prop where
  whole_ne : number.whole ≠ []
  whole_digits : ∀ c ∈ number.whole, c.isDigit
  /-- A leading zero stands alone. -/
  leading : number.whole.head? = some '0' → number.whole.length = 1
  fraction_digits : ∀ c ∈ number.fraction, c.isDigit
  exponent_ne : ∀ exponent ∈ number.exponent, exponent.digits ≠ []
  exponent_digits : ∀ exponent ∈ number.exponent, ∀ c ∈ exponent.digits, c.isDigit

def fractionChars (number : Number) : List Char :=
  if number.fraction.isEmpty then [] else '.' :: number.fraction

def exponentChars (number : Number) : List Char := (number.exponent.map Exponent.text).getD []

variable {number : Number} {rest : List Char}

theorem head_exponentChars (number : Number) (ends : Ends rest) :
    ∀ c ∈ (number.exponentChars ++ rest).head?, c = 'e' ∨ c = ',' ∨ c = ']' ∨ c = '\x7d' := by
  unfold exponentChars
  cases number.exponent with
  | none => exact fun c hc => .inr (ends c hc)
  | some exponent => simp [Exponent.text]

theorem head_fractionChars (number : Number) (ends : Ends rest) :
    NoDigit (number.fractionChars ++ (number.exponentChars ++ rest)) := by
  unfold fractionChars
  split
  · intro c hc
    rcases head_exponentChars number ends c hc with rfl | rfl | rfl | rfl <;> decide
  · intro c hc
    obtain rfl : '.' = c := by simpa using hc
    decide

theorem readExponent_chars (h : number.WellFormed) (ends : Ends rest) :
    readExponent (number.exponentChars ++ rest) = some (number.exponent, rest) := by
  cases found : number.exponent with
  | none =>
    rw [exponentChars, found]
    cases rest with
    | nil => rfl
    | cons c more =>
      have stop : ¬(c == 'e' || c == 'E') := by
        rcases ends c rfl with rfl | rfl | rfl <;> decide
      show readExponent (c :: more) = _
      rw [readExponent, if_neg stop]
  | some exponent =>
    obtain ⟨negative, digits⟩ := exponent
    have read := readDigits_append (h.exponent_ne _ found) (h.exponent_digits _ found) ends.noDigit
    rw [exponentChars, found]
    cases negative <;> simp [Exponent.text, readExponent, readExponentSign, read]

theorem readFraction_chars (h : number.WellFormed) (ends : Ends rest) :
    readFraction (number.fractionChars ++ (number.exponentChars ++ rest)) =
      some (number.fraction, number.exponentChars ++ rest) := by
  have heads := head_exponentChars number ends
  unfold fractionChars
  split
  · next none =>
    rw [List.isEmpty_iff.1 none, List.nil_append]
    unfold readFraction
    split
    · next more same =>
      rw [same] at heads
      simp at heads
    · rfl
  · next some =>
    refine readDigits_append ?_ h.fraction_digits ?_
    · simpa using some
    · intro c hc
      rcases heads c hc with rfl | rfl | rfl | rfl <;> decide

theorem readWhole_append (h : number.WellFormed) {tail : List Char} (ends : NoDigit tail) :
    readWhole (number.whole ++ tail) = some (number.whole, tail) := by
  unfold readWhole
  rw [readDigits_append h.whole_ne h.whole_digits ends]
  have leading := h.leading
  simp only [Option.bind_eq_bind, Option.bind_some]
  rw [if_neg]
  simpa using leading

theorem readNumber_chars (h : number.WellFormed) (ends : Ends rest) :
    readNumber (number.chars ++ rest) = some (number, rest) := by
  have whole := readWhole_append h (head_fractionChars number ends)
  have fraction := readFraction_chars h ends
  have exponent := readExponent_chars h ends
  have signed : readSign (number.chars ++ rest) = (number.negative,
      number.whole ++ (number.fractionChars ++ (number.exponentChars ++ rest))) := by
    have split : number.chars ++ rest = (if number.negative then ['-'] else []) ++
        (number.whole ++ (number.fractionChars ++ (number.exponentChars ++ rest))) := by
      simp [chars, fractionChars, exponentChars]
    rw [split]
    cases found : number.negative with
    | true => rfl
    | false =>
      obtain ⟨c, more, same⟩ := List.exists_cons_of_ne_nil h.whole_ne
      have digit : c.isDigit := h.whole_digits c (by simp [same])
      rw [same]
      unfold readSign
      split
      · next negative =>
        obtain rfl : c = '-' := (List.cons.inj negative).1
        exact absurd digit (by decide)
      · rfl
  unfold readNumber
  rw [signed]
  simp only [whole, fraction, exponent, Option.bind_eq_bind, Option.bind_some]

/-! ### Natural numbers -/

theorem head?_toDigits {n : Nat} (h : (Nat.toDigits 10 n).head? = some '0') : n = 0 := by
  induction n using Nat.strongRecOn with
  | ind n ih =>
    rw [Nat.toDigits_eq_if (by decide)] at h
    split at h
    · simpa using h
    · next large =>
      rw [List.head?_append, Option.or_of_isSome (by simp)] at h
      have quotient := ih (n / 10) (by omega) h
      omega

theorem ofNat_wellFormed (n : Nat) : (ofNat n).WellFormed where
  whole_ne := Nat.toDigits_ne_nil
  whole_digits _ hc := Nat.isDigit_of_mem_toDigits (by decide) (by decide) hc
  leading h := by
    obtain rfl := head?_toDigits h
    rfl
  fraction_digits _ hc := by cases hc
  exponent_ne _ h := by cases h
  exponent_digits _ h := by cases h

theorem digitsValue_eq (digits : List Char) :
    digitsValue digits = Nat.ofDigitChars 10 digits 0 := by
  rw [Nat.ofDigitChars_eq_foldl, digitsValue]
  simp only [digitValue, Nat.mul_comm]

theorem toNat?_ofNat (n : Nat) : (ofNat n).toNat? = some n := by
  show some (digitsValue (Nat.toDigits 10 n)) = some n
  rw [digitsValue_eq, Nat.ofDigitChars_ten_toDigits]

end Number

/-! ## Strings -/

theorem hexValue?_hexDigit (n : Nat) : hexValue? (hexDigit n) = some (n % 16) := by
  have each : ∀ m < 16, hexValue? (Nat.digitChar m) = some m := by decide
  exact each _ (Nat.mod_lt n (by decide))

theorem readEscape_control {c : Char} (control : c.toNat < 0x20) (rest : List Char) :
    readEscape ('u' :: '0' :: '0' :: hexDigit (c.toNat / 16) :: hexDigit c.toNat :: rest) =
      some (some c, rest) := by
  have zero : hexValue? '0' = some 0 := rfl
  have unit : c.toNat / 16 % 16 * 16 + c.toNat % 16 = c.toNat := by omega
  have high : isHighSurrogate c.toNat = false := by
    simp only [isHighSurrogate, Bool.and_eq_false_iff, decide_eq_false_iff_not]
    omega
  have low : isLowSurrogate c.toNat = false := by
    simp only [isLowSurrogate, Bool.and_eq_false_iff, decide_eq_false_iff_not]
    omega
  simp [readEscape, readUnit, zero, hexValue?_hexDigit, unit, high, low]

/-- A character is written as it is, or behind a backslash. -/
theorem escapeChar_cases (c : Char) :
    (escapeChar c = [c] ∧ c ≠ '"' ∧ c ≠ '\\' ∧ ¬c.toNat < 0x20) ∨
      ∃ escape, escapeChar c = '\\' :: escape ∧
        ∀ rest, readEscape (escape ++ rest) = some (some c, rest) := by
  unfold escapeChar
  split
  iterate 7 exact .inr ⟨_, rfl, fun _ => rfl⟩
  · next quote backslash _ _ _ _ _ =>
    split
    · next control => exact .inr ⟨_, rfl, readEscape_control control⟩
    · next printed => exact .inl ⟨rfl, quote, backslash, printed⟩

theorem readChars_escaped (text read : List Char) (fuel : Nat) {rest : List Char}
    (enough : (text.flatMap escapeChar).length < fuel) :
    readChars fuel (some read) (text.flatMap escapeChar ++ '"' :: rest) =
      some (some (text.reverse ++ read), rest) := by
  induction text generalizing read fuel with
  | nil =>
    obtain ⟨fuel, rfl⟩ := Nat.exists_eq_add_of_lt enough
    simp [readChars]
  | cons c more ih =>
    rw [List.flatMap_cons, List.length_append] at enough
    obtain ⟨fuel, rfl⟩ := Nat.exists_eq_add_one.2 (show 0 < fuel by omega)
    rw [List.flatMap_cons, List.append_assoc, List.reverse_cons, List.append_assoc]
    rcases escapeChar_cases c with ⟨plain, quote, backslash, printed⟩ | ⟨escape, escaped, reads⟩
    · have next := ih (c :: read) fuel (by rw [plain, List.length_singleton] at enough; omega)
      rw [plain]
      simpa [readChars, quote, backslash, printed] using next
    · have next := ih (c :: read) fuel (by rw [escaped, List.length_cons] at enough; omega)
      rw [escaped]
      simpa [readChars, reads] using next

theorem readString_escaped (text : String) (fuel : Nat) (rest : List Char)
    (enough : (text.toList.flatMap escapeChar).length < fuel) :
    readString fuel (text.toList.flatMap escapeChar ++ '"' :: rest) = some (some text, rest) := by
  unfold readString
  rw [readChars_escaped text.toList [] fuel enough]
  simp

end SchemaNet.Json
