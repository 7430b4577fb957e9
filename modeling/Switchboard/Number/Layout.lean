import Switchboard.Number.Shortest

/-!
# Number text

How the digits of a number are set out. The two layouts of the program differ in which exponents are
written positionally, in the point of a whole number, in ties and in what is not finite.
-/

namespace Switchboard

/-- The decisions of a number format. -/
structure Layout where
  tie : Tie
  /-- The least exponent of a first digit that is written positionally, if there is one. -/
  least : Option Int
  /-- The greatest exponent of a first digit that is written positionally, if there is one. -/
  most : Option Int
  /-- What follows the digits of a whole number that is written positionally. -/
  whole : String
  /-- The text of a value that is not a number. -/
  nan : String
  /-- The text of infinity, if it has a sign like other numbers. -/
  infinite : Option String

namespace Layout

/-- Digits with a point, never an exponent, and no point in a whole number. -/
def plain : Layout where
  tie := .away
  least := none
  most := none
  whole := ""
  nan := "NaN"
  infinite := some "inf"

/-- Numbers of JSON text: positional from a millionth to below ten billions of thousands, a whole
number keeps a point, and what is not finite is null. -/
def json : Layout where
  tie := .even
  least := some (-6)
  most := some 12
  whole := ".0"
  nan := "null"
  infinite := none

def positional (l : Layout) (d : Decimal) : String :=
  let text := toString d.digits
  if 0 ≤ d.exponent then text.pushn '0' d.exponent.toNat ++ l.whole
  else
    let places := (-d.exponent).toNat
    let cs := text.toList
    if places < cs.length then
      String.ofList (cs.take (cs.length - places)) ++ "." ++ String.ofList (cs.drop (cs.length - places))
    else "0." ++ "".pushn '0' (places - cs.length) ++ text

def scientific (d : Decimal) (first : Int) : String :=
  let mantissa :=
    match (toString d.digits).toList with
    | [] => ""
    | [c] => c.toString
    | c :: rest => c.toString ++ "." ++ String.ofList rest
  mantissa ++ "e" ++ (if 0 ≤ first then "+" else "-") ++ toString first.natAbs

def decimal (l : Layout) (d : Decimal) : String :=
  let first := d.exponent + Decimal.width d.digits - 1
  if l.least.all (· ≤ first) && l.most.all (first ≤ ·) then l.positional d else scientific d first

/-- The text of a binary number: the fewest digits that read back. -/
def write (l : Layout) {f : Format} (x : Binary f) : String :=
  let sign := if x.negative then "-" else ""
  if x.isNaN then l.nan
  else if !x.isFinite then (l.infinite.map (sign ++ ·)).getD l.nan
  else if x.magnitude = 0 then sign ++ "0" ++ l.whole
  else sign ++ l.decimal (Decimal.shortest f l.tie x.magnitude)

end Layout

def Binary.text {f : Format} (x : Binary f) : String :=
  Layout.plain.write x

def Binary.json {f : Format} (x : Binary f) : String :=
  Layout.json.write x

end Switchboard
