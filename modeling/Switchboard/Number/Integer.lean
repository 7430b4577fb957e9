import Switchboard.Number.Power
import Switchboard.Text.Ascii

/-!
# Whole numbers as text

Reading an unsigned number of bounded size: an optional plus sign and decimal digits. What is wrong
with a text that is refused is one of three causes.
-/

namespace Switchboard

inductive IntegerError where
  | empty
  | invalidDigit
  | tooLarge
  deriving DecidableEq, Repr

def IntegerError.message : IntegerError → String
  | .empty => "cannot parse integer from empty string"
  | .invalidDigit => "invalid digit found in string"
  | .tooLarge => "number too large to fit in target type"

/-- Adds digits to a number that is already read. The first character that is no digit, or the first
digit that leaves the range, decides the error. -/
def readDigits (largest : Nat) : List Char → Nat → Except IntegerError Nat
  | [], n => .ok n
  | c :: rest, n =>
    match Text.digit? 10 c with
    | none => .error .invalidDigit
    | some d =>
      if n * 10 + d ≤ largest then readDigits largest rest (n * 10 + d) else .error .tooLarge

/-- An unsigned number of at most `largest`: digits, with or without a plus sign in front. -/
def readUnsigned (largest : Nat) (cs : List Char) : Except IntegerError Nat :=
  match cs with
  | [] => .error .empty
  | ['+'] | ['-'] => .error .invalidDigit
  | '+' :: rest => readDigits largest rest 0
  | _ => readDigits largest cs 0

end Switchboard
