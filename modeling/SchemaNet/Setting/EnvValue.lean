import SchemaNet.Text.Invisible

/-!
The value of an environment variable, which is a sequence of bytes and perhaps no text,
and a readable form of such bytes.
-/

namespace SchemaNet

inductive EnvValue where
  | unset
  | text (value : String)
  | bytes (value : List UInt8)
  deriving DecidableEq, Repr

namespace EnvValue

/-- Bytes that are a text are taken as that text. -/
def ofBytes (bytes : List UInt8) : EnvValue :=
  match String.fromUTF8? ⟨bytes.toArray⟩ with
  | some value => .text value
  | none => .bytes bytes

/-- The value of a variable that was set to some bytes; a NUL cannot be among them. -/
def store? (bytes : List UInt8) : Option EnvValue :=
  if 0 ∈ bytes then none else some (ofBytes bytes)

/-- A variable has a name, without an equals sign and without a NUL. -/
def isName (name : String) : Bool :=
  !name.isEmpty && name.toList.all fun c => c != '=' && c != '\x00'

/-- A hexadecimal digit in upper case. -/
def hexUpper (n : Nat) : Char := (Nat.digitChar (n % 16)).toUpper

def hexLower (n : Nat) : List Char := Nat.toDigits 16 n

/-- An apostrophe stands for itself between quotation marks. -/
def escapeChar (c : Char) : List Char :=
  match c with
  | '\x00' => ['\\', '0']
  | '\t' => ['\\', 't']
  | '\r' => ['\\', 'r']
  | '\n' => ['\\', 'n']
  | '\\' => ['\\', '\\']
  | '"' => ['\\', '"']
  | c => if Text.isInvisible c then ['\\', 'u', '\x7b'] ++ hexLower c.toNat ++ ['\x7d'] else [c]

def escapeByte (byte : UInt8) : List Char :=
  ['\\', 'x', hexUpper (byte.toNat / 16), hexUpper byte.toNat]

/-- The character that the first `count` bytes encode, if they do. -/
def charOf? (bytes : List UInt8) (count : Nat) : Option Char :=
  match String.fromUTF8? ⟨(bytes.take count).toArray⟩ with
  | some decoded =>
    match decoded.toList with
    | [c] => if count ≤ bytes.length then some c else none
    | _ => none
  | none => none

/-- The characters between the quotation marks: the text where the bytes are text, and a
hexadecimal escape for any other byte. -/
def escape : (fuel : Nat) → List UInt8 → List Char
  | 0, _ => []
  | _, [] => []
  | fuel + 1, byte :: rest =>
    match [1, 2, 3, 4].findSome? fun count =>
      (charOf? (byte :: rest) count).map fun c => (c, count) with
    | some (c, count) => escapeChar c ++ escape fuel (rest.drop (count - 1))
    | none => escapeByte byte ++ escape fuel rest

def quote (bytes : List UInt8) : String :=
  String.ofList ('"' :: escape bytes.length bytes ++ ['"'])

end EnvValue

end SchemaNet
