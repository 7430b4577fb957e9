/-!
# ASCII text

Letter case over ASCII alone, and the characters of decimal and hexadecimal digits. Letters outside
ASCII have no case here: `ſ` is no spelling of `s`.
-/

namespace Switchboard.Text

/-- The same text when ASCII case is set aside. -/
def sameLetters (s t : String) : Bool :=
  s.toList.map Char.toLower == t.toList.map Char.toLower

/-- The value of a digit in a base up to sixteen. -/
def digit? (base : Nat) (c : Char) : Option Nat :=
  let value? : Option Nat :=
    if '0' ≤ c ∧ c ≤ '9' then some (c.toNat - '0'.toNat)
    else if 'a' ≤ c ∧ c ≤ 'f' then some (c.toNat - 'a'.toNat + 10)
    else if 'A' ≤ c ∧ c ≤ 'F' then some (c.toNat - 'A'.toNat + 10)
    else none
  value?.filter (· < base)

/-- The number that a string of digits denotes, most significant digit first. -/
def ofDigits? (base : Nat) (cs : List Char) : Option Nat :=
  cs.foldl (fun n? c => n?.bind fun n => (digit? base c).map (n * base + ·)) (some 0)

/-- A text of the given length with zeros in front of the number's digits. -/
def padded (width n : Nat) : String :=
  let digits := toString n
  "".pushn '0' (width - digits.length) ++ digits

end Switchboard.Text
