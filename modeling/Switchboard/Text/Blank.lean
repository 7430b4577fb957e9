/-!
# Blank characters

The Unicode property `White_Space` as a table of ranges, and trimming by it.
-/

namespace Switchboard.Text

/-- First and last code point of each range of `White_Space`. -/
def blankRanges : List (Nat × Nat) :=
  [(0x09, 0x0D), (0x20, 0x20), (0x85, 0x85), (0xA0, 0xA0), (0x1680, 0x1680), (0x2000, 0x200A),
    (0x2028, 0x2029), (0x202F, 0x202F), (0x205F, 0x205F), (0x3000, 0x3000)]

def isBlank (c : Char) : Bool :=
  blankRanges.any fun r => r.1 ≤ c.toNat && c.toNat ≤ r.2

/-- The characters from the first one that is not blank. -/
def trimStart (cs : List Char) : List Char :=
  cs.dropWhile isBlank

/-- The characters without the blanks at either end. -/
def trim (cs : List Char) : List Char :=
  (trimStart (trimStart cs).reverse).reverse

def allBlank (s : String) : Bool :=
  s.toList.all isBlank

/-- There are ten ranges, twenty-five characters in all. -/
example : (blankRanges.map fun r => r.2 + 1 - r.1).sum = 25 := by decide

end Switchboard.Text
