/-!
# ModelRegistry.Text.Blank

Blank characters and the trimming of text. Names of classes and references to
loaders are read with the blanks around them removed, and a class whose name
is all blanks counts as nameless.

Blank is the Unicode property `White_Space`, so that a no-break space or an
ideographic space is removed as well as a tab.
-/

namespace ModelRegistry.Text

/-- The code points of the blank characters, as ranges with both ends. -/
def blankRanges : List (Nat × Nat) :=
  [(0x09, 0x0D), (0x20, 0x20), (0x85, 0x85), (0xA0, 0xA0), (0x1680, 0x1680), (0x2000, 0x200A),
   (0x2028, 0x2029), (0x202F, 0x202F), (0x205F, 0x205F), (0x3000, 0x3000)]

/-- Whether the code point of `c` lies in one of `ranges`. -/
def inRanges (ranges : List (Nat × Nat)) (c : Char) : Bool :=
  ranges.any fun range => range.1 ≤ c.toNat && c.toNat ≤ range.2

/-- Whether `c` is blank. -/
def isBlank (c : Char) : Bool := inRanges blankRanges c

/-- The characters without the blank ones at either end. -/
def trimChars (cs : List Char) : List Char :=
  ((cs.dropWhile isBlank).reverse.dropWhile isBlank).reverse

/-- The text without the blanks at either end. -/
def trim (s : String) : String := String.ofList (trimChars s.toList)

/-- A letter, digit or underscore of ASCII: what an identifier is made of. -/
def isWordChar (c : Char) : Bool := c.isAlphanum || c == '_'

/-- A non-empty run of ASCII letters, digits and underscores. -/
def isWord (cs : List Char) : Bool := !cs.isEmpty && cs.all isWordChar

end ModelRegistry.Text
