import SchemaNet.Json.Basic

/-!
Writing JSON text, either compact or with one item a line and two spaces for each
level. A string keeps its characters but for the quotation mark, the backslash and
the control characters below the space.
-/

namespace SchemaNet.Json

def hexDigit (n : Nat) : Char := Nat.digitChar (n % 16)

def escapeChar (c : Char) : List Char :=
  match c with
  | '"' => ['\\', '"']
  | '\\' => ['\\', '\\']
  | '\x08' => ['\\', 'b']
  | '\x0c' => ['\\', 'f']
  | '\n' => ['\\', 'n']
  | '\r' => ['\\', 'r']
  | '\t' => ['\\', 't']
  | c =>
    if c.toNat < 0x20 then
      ['\\', 'u', '0', '0', hexDigit (c.toNat / 16), hexDigit c.toNat]
    else
      [c]

def quote (text : String) : String :=
  String.ofList ('"' :: text.toList.flatMap escapeChar ++ ['"'])

/-- The exponent always has a sign. -/
def Exponent.text (exponent : Exponent) : List Char :=
  'e' :: (if exponent.negative then '-' else '+') :: exponent.digits

def Number.chars (number : Number) : List Char :=
  (if number.negative then ['-'] else []) ++ number.whole
    ++ (if number.fraction.isEmpty then [] else '.' :: number.fraction)
    ++ (number.exponent.map Exponent.text).getD []

def Number.text (number : Number) : String := String.ofList number.chars

/-- What stands between the parts of a value: `level` counts the brackets around it. -/
structure Layout where
  line : (level : Nat) → String
  colon : String

def Layout.compact : Layout := ⟨fun _ => "", ":"⟩

def Layout.pretty : Layout :=
  ⟨fun level => "\n" ++ String.ofList (List.replicate (2 * level) ' '), ": "⟩

/-- Items between two brackets, each on its line; no line without items. -/
def Layout.enclose (layout : Layout) (level : Nat) (left right : String) (items : List String) :
    String :=
  if items.isEmpty then
    left ++ right
  else
    left ++ String.intercalate "," (items.map (layout.line (level + 1) ++ ·))
      ++ layout.line level ++ right

mutual

def write (layout : Layout) (level : Nat) : Json → String
  | .null => "null"
  | .bool true => "true"
  | .bool false => "false"
  | .num value => value.text
  | .str value => quote value
  | .arr items => layout.enclose level "[" "]" (writeItems layout (level + 1) items)
  | .obj members => layout.enclose level "\x7b" "\x7d" (writeMembers layout (level + 1) members)
  | .illFormed => "null"

def writeItems (layout : Layout) (level : Nat) : List Json → List String
  | [] => []
  | item :: rest => write layout level item :: writeItems layout level rest

def writeMembers (layout : Layout) (level : Nat) : List (String × Json) → List String
  | [] => []
  | (key, value) :: rest =>
    (quote key ++ layout.colon ++ write layout level value) :: writeMembers layout level rest

end

def compact (value : Json) : String := value.write .compact 0

def pretty (value : Json) : String := value.write .pretty 0

end SchemaNet.Json
