/-!
White space of the character standard, and texts without it at their ends.
-/

namespace SchemaNet.Text

/-- The ranges of characters that are white space. -/
def blanks : List (Nat × Nat) :=
  [(0x09, 0x0d), (0x20, 0x20), (0x85, 0x85), (0xa0, 0xa0), (0x1680, 0x1680), (0x2000, 0x200a),
    (0x2028, 0x2029), (0x202f, 0x202f), (0x205f, 0x205f), (0x3000, 0x3000)]

def isBlank (c : Char) : Bool := blanks.any fun (first, last) => first ≤ c.toNat && c.toNat ≤ last

/-- The characters between the white space at both ends. -/
def trim (text : List Char) : List Char :=
  ((text.dropWhile isBlank).reverse.dropWhile isBlank).reverse

/-- The lower case of a character as far as it is an ASCII letter: that of the Latin
capitals and of the Kelvin sign. -/
def lowerAscii (c : Char) : Char := if c = '\u212a' then 'k' else c.toLower

end SchemaNet.Text
