import SchemaNet.Json.Basic

/-!
Reading JSON text, strictly: nothing but whitespace around one value, no comments,
no trailing commas, no leading zeros. Each reader takes the characters that are
left and returns what it read with the rest. Nested values are read with fuel, and
the number of characters is always enough.
-/

namespace SchemaNet.Json

def isBlank (c : Char) : Bool := c == ' ' || c == '\n' || c == '\r' || c == '\t'

def skipBlank (text : List Char) : List Char := text.dropWhile isBlank

/-- The rest of the text behind a fixed beginning. -/
def expect? (beginning : List Char) (text : List Char) : Option (List Char) :=
  match beginning, text with
  | [], rest => some rest
  | c :: more, d :: rest => if c == d then expect? more rest else none
  | _ :: _, [] => none

/-! ## Numbers -/

def readDigits (text : List Char) : Option (List Char × List Char) :=
  match text.takeWhile Char.isDigit with
  | [] => none
  | digits => some (digits, text.dropWhile Char.isDigit)

/-- A leading zero stands alone. -/
def readWhole (text : List Char) : Option (List Char × List Char) := do
  let (digits, rest) ← readDigits text
  if digits.head? == some '0' && digits.length != 1 then none else some (digits, rest)

def readFraction (text : List Char) : Option (List Char × List Char) :=
  match text with
  | '.' :: rest => readDigits rest
  | _ => some ([], text)

def readExponentSign (text : List Char) : Bool × List Char :=
  match text with
  | '+' :: rest => (false, rest)
  | '-' :: rest => (true, rest)
  | _ => (false, text)

def readExponent (text : List Char) : Option (Option Exponent × List Char) :=
  match text with
  | c :: rest =>
    if c == 'e' || c == 'E' then do
      let (negative, afterSign) := readExponentSign rest
      let (digits, afterDigits) ← readDigits afterSign
      some (some ⟨negative, digits⟩, afterDigits)
    else
      some (none, text)
  | [] => some (none, text)

def readSign (text : List Char) : Bool × List Char :=
  match text with
  | '-' :: rest => (true, rest)
  | _ => (false, text)

def readNumber (text : List Char) : Option (Number × List Char) := do
  let (negative, afterSign) := readSign text
  let (whole, afterWhole) ← readWhole afterSign
  let (fraction, afterFraction) ← readFraction afterWhole
  let (exponent, rest) ← readExponent afterFraction
  some (⟨negative, whole, fraction, exponent⟩, rest)

/-! ## Strings -/

def hexValue? (c : Char) : Option Nat :=
  if '0' ≤ c ∧ c ≤ '9' then some (c.toNat - '0'.toNat)
  else if 'a' ≤ c ∧ c ≤ 'f' then some (c.toNat - 'a'.toNat + 10)
  else if 'A' ≤ c ∧ c ≤ 'F' then some (c.toNat - 'A'.toNat + 10)
  else none

/-- Four hexadecimal digits. -/
def readUnit (text : List Char) : Option (Nat × List Char) :=
  match text with
  | a :: b :: c :: d :: rest => do
    some (((← hexValue? a) * 16 + (← hexValue? b)) * 256
      + (← hexValue? c) * 16 + (← hexValue? d), rest)
  | _ => none

def simpleEscape? (c : Char) : Option Char :=
  match c with
  | '"' => some '"'
  | '\\' => some '\\'
  | '/' => some '/'
  | 'b' => some '\x08'
  | 'f' => some '\x0c'
  | 'n' => some '\n'
  | 'r' => some '\r'
  | 't' => some '\t'
  | _ => none

def isHighSurrogate (unit : Nat) : Bool := 0xD800 ≤ unit && unit < 0xDC00

def isLowSurrogate (unit : Nat) : Bool := 0xDC00 ≤ unit && unit < 0xE000

def joinSurrogates (high low : Nat) : Char :=
  Char.ofNat (0x10000 + (high - 0xD800) * 0x400 + (low - 0xDC00))

/-- One character of a string, `none` for an unpaired surrogate. -/
def readEscape (text : List Char) : Option (Option Char × List Char) :=
  match text with
  | 'u' :: rest => do
    let (unit, afterUnit) ← readUnit rest
    if isHighSurrogate unit then
      match afterUnit with
      | '\\' :: 'u' :: afterMark =>
        let (second, afterSecond) ← readUnit afterMark
        if isLowSurrogate second then
          some (some (joinSurrogates unit second), afterSecond)
        else
          some (none, afterUnit)
      | _ => some (none, afterUnit)
    else if isLowSurrogate unit then
      some (none, afterUnit)
    else
      some (some (Char.ofNat unit), afterUnit)
  | c :: rest => do
    let escaped ← simpleEscape? c
    some (some escaped, rest)
  | [] => none

/-- The characters up to the closing quotation mark, the last one first. The text is `none`
once an unpaired surrogate has been met. Each step takes at least one character, so `fuel`
as large as the text is enough. -/
def readChars : (fuel : Nat) → (read : Option (List Char)) → List Char →
    Option (Option (List Char) × List Char)
  | 0, _, _ => none
  | fuel + 1, read, text =>
    match text with
    | '"' :: rest => some (read, rest)
    | '\\' :: rest => do
      let (c, after) ← readEscape rest
      readChars fuel (do some ((← c) :: (← read))) after
    | c :: rest => if c.toNat < 0x20 then none else readChars fuel (read.map (c :: ·)) rest
    | [] => none

def readString (fuel : Nat) (text : List Char) : Option (Option String × List Char) := do
  let (chars, rest) ← readChars fuel (some []) text
  some (chars.map fun reversed => String.ofList reversed.reverse, rest)

/-! ## Values -/

mutual

/-- A value whose first character is the first of the text. -/
def readValue : (fuel : Nat) → List Char → Option (Json × List Char)
  | 0, _ => none
  | fuel + 1, text =>
    match text with
    | 'n' :: rest => (expect? ['u', 'l', 'l'] rest).map (Json.null, ·)
    | 't' :: rest => (expect? ['r', 'u', 'e'] rest).map (Json.bool true, ·)
    | 'f' :: rest => (expect? ['a', 'l', 's', 'e'] rest).map (Json.bool false, ·)
    | '"' :: rest => do
      let (value, after) ← readString fuel rest
      some ((value.map Json.str).getD .illFormed, after)
    | '[' :: rest =>
      match skipBlank rest with
      | ']' :: after => some (.arr [], after)
      | inner => readItems fuel [] inner
    | '\x7b' :: rest =>
      match skipBlank rest with
      | '\x7d' :: after => some (.obj [], after)
      | inner => readMembers fuel (some []) inner
    | _ => (readNumber text).map fun (value, rest) => (Json.num value, rest)

/-- The items of an array from the first character of an item on, `read` the ones before. -/
def readItems : (fuel : Nat) → (read : List Json) → List Char → Option (Json × List Char)
  | 0, _, _ => none
  | fuel + 1, read, text => do
    let (item, after) ← readValue fuel text
    match skipBlank after with
    | ',' :: rest => readItems fuel (item :: read) (skipBlank rest)
    | ']' :: rest => some (.arr (item :: read).reverse, rest)
    | _ => none

/-- The members of an object from the first character of a key on, `read` the ones before
unless one of their keys was no text. -/
def readMembers : (fuel : Nat) → (read : Option (List (String × Json))) → List Char →
    Option (Json × List Char)
  | 0, _, _ => none
  | fuel + 1, read, text =>
    match text with
    | '"' :: afterQuote => do
      let (key, afterKey) ← readString fuel afterQuote
      let afterColon ← expect? [':'] (skipBlank afterKey)
      let (value, after) ← readValue fuel (skipBlank afterColon)
      let members := do some ((← key, value) :: (← read))
      match skipBlank after with
      | ',' :: rest => readMembers fuel members (skipBlank rest)
      | '\x7d' :: rest =>
        some ((members.map fun reversed => Json.obj reversed.reverse).getD .illFormed, rest)
      | _ => none
    | _ => none

end

/-- The value at the beginning of a text and what follows it. -/
def readFirst (text : String) : Option (Json × List Char) :=
  let chars := skipBlank text.toList
  readValue (chars.length + 1) chars

def parse? (text : String) : Option Json := do
  let (value, rest) ← readFirst text
  if (skipBlank rest).isEmpty then some value else none

def parse (text : String) : Except Error Json :=
  match parse? text with
  | some value => .ok value
  | none => .error .malformed

def first? (text : String) : Option Json := (readFirst text).map (·.1)

/-! ## Values that end too early -/

/-- The items of an array up to the first fault, an item that the fault follows included. -/
def leadingItems : (fuel : Nat) → List Char → List Json
  | 0, _ => []
  | fuel + 1, text =>
    match readValue fuel text with
    | none => []
    | some (item, after) =>
      item :: match skipBlank after with
        | ',' :: rest => leadingItems fuel (skipBlank rest)
        | _ => []

/-- A member whose key is a text, and what follows it. -/
def readMember (fuel : Nat) (text : List Char) : Option ((String × Json) × List Char) := do
  let (key, afterKey) ← readString fuel (← expect? ['"'] text)
  let afterColon ← expect? [':'] (skipBlank afterKey)
  let (value, rest) ← readValue fuel (skipBlank afterColon)
  some ((← key, value), rest)

/-- The members of an object up to the first fault. -/
def leadingMembers : (fuel : Nat) → List Char → List (String × Json)
  | 0, _ => []
  | fuel + 1, text =>
    match readMember fuel text with
    | none => []
    | some (member, after) =>
      member :: match skipBlank after with
        | ',' :: rest => leadingMembers fuel (skipBlank rest)
        | _ => []

/-- The array or the object at the beginning of a text with the parts before its first fault. -/
def leading (text : String) : Json :=
  let chars := skipBlank text.toList
  match chars with
  | '[' :: rest => .arr (leadingItems chars.length (skipBlank rest))
  | '\x7b' :: rest => .obj (leadingMembers chars.length (skipBlank rest))
  | _ => .illFormed

end SchemaNet.Json
