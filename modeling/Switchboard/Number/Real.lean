import Switchboard.Number.Binary
import Switchboard.Text.Ascii

/-!
# Real numbers as text

Reading a real number: a sign, digits with at most one period among them, and a power of ten; or one
of the words for what is not finite, in any case.
-/

namespace Switchboard.Binary

variable {f : Format}

/-- A power of ten with a sign, after its letter. -/
def readExponent? (cs : List Char) : Option Int :=
  let digits (cs : List Char) : Option Nat := if cs.isEmpty then none else Text.ofDigits? 10 cs
  match cs with
  | '+' :: rest => (digits rest).map Int.ofNat
  | '-' :: rest => (digits rest).map fun n => -Int.ofNat n
  | cs => (digits cs).map Int.ofNat

def readMagnitude? (cs : List Char) : Option (Binary f) := do
  let whole := cs.takeWhile Char.isDigit
  let rest := cs.dropWhile Char.isDigit
  let (places, rest) := match rest with
    | '.' :: rest => (rest.takeWhile Char.isDigit, rest.dropWhile Char.isDigit)
    | rest => ([], rest)
  if whole.isEmpty && places.isEmpty then none
  else
    let exponent ← match rest with
      | [] => some (0 : Int)
      | 'e' :: rest | 'E' :: rest => readExponent? rest
      | _ => none
    let n ← Text.ofDigits? 10 (whole ++ places)
    some (.ofDecimal false n (exponent - places.length))

/-- What a word for a number that is not finite denotes. -/
def ofWord? (s : String) : Option (Binary f) :=
  if Text.sameLetters s "inf" || Text.sameLetters s "infinity" then some .infinite
  else if Text.sameLetters s "nan" then some .nan
  else none

def read? (cs : List Char) : Option (Binary f) :=
  let magnitude (cs : List Char) : Option (Binary f) :=
    (ofWord? (String.ofList cs)).or (readMagnitude? cs)
  match cs with
  | '-' :: rest => (magnitude rest).map neg
  | '+' :: rest => magnitude rest
  | cs => magnitude cs

end Switchboard.Binary
