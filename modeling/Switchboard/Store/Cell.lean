import Switchboard.Store.Conflict

/-!
# Cells

What the columns of the store hold. A column of whole numbers takes a text over as a number where the
text is one, and keeps any other text, which then is no value to read. A column of texts keeps the
digits of a number.
-/

namespace Switchboard.Store

/-- The content of a column of whole numbers. -/
inductive Cell where
  | int (i : Int)
  | text (s : String)
  deriving DecidableEq, Repr

namespace Cell

def ofBool (b : Bool) : Cell := int (if b then 1 else 0)

def ofNat (n : Nat) : Cell := int n

def isBlank (c : Char) : Bool :=
  c == ' ' || (9 ≤ c.toNat && c.toNat ≤ 13)

/-- The digits in front, and what follows them. -/
def spanDigits (cs : List Char) : List Char × List Char :=
  (cs.takeWhile Char.isDigit, cs.dropWhile Char.isDigit)

/-- The whole number that a text denotes, if it denotes a number that is whole and of sixty-four
bits. -/
def whole? (s : String) : Option Int := do
  let cs := ((s.toList.dropWhile isBlank).reverse.dropWhile isBlank).reverse
  let (sign, cs) : Int × List Char := match cs with
    | '-' :: rest => (-1, rest)
    | '+' :: rest => (1, rest)
    | cs => (1, cs)
  let (whole, cs) := spanDigits cs
  let (places, cs) := match cs with
    | '.' :: rest => spanDigits rest
    | cs => ([], cs)
  if whole.isEmpty ∧ places.isEmpty then none
  else
    let exponent ← match cs with
      | [] => some (0 : Int)
      | e :: rest =>
        if e ≠ 'e' ∧ e ≠ 'E' then none
        else
          let (sign, rest) : Int × List Char := match rest with
            | '-' :: rest => (-1, rest)
            | '+' :: rest => (1, rest)
            | rest => (1, rest)
          if rest.isEmpty ∨ !rest.all Char.isDigit ∨ 3 < rest.length then none
          else (Text.ofDigits? 10 rest).map (sign * ·)
    let digits ← Text.ofDigits? 10 (whole ++ places)
    let power := exponent - places.length
    let i : Int ←
      if 0 ≤ power then some (sign * digits * 10 ^ power.toNat)
      else
        let divisor := 10 ^ (-power).toNat
        if digits % divisor = 0 then some (sign * (digits / divisor)) else none
    if -(2 ^ 63) ≤ i ∧ i < 2 ^ 63 then some i else none

/-- The cell as a column of whole numbers takes it over. -/
def asNumber : Cell → Cell
  | int i => int i
  | text s => ((whole? s).map int).getD (text s)

/-- The cell as a column of texts takes it over. -/
def asText : Cell → String
  | int i => toString i
  | text s => s

def read : Cell → Except Error Int
  | int i => .ok i
  | text _ => .error .database

/-- A truth value: the low thirty-two bits are not all zero. -/
def bool (c : Cell) : Except Error Bool :=
  c.read.map fun i => i % 2 ^ 32 != 0

/-- A number below a bound, in a column with a name. -/
def natBelow (bound : Nat) (column : String) (c : Cell) : Except Error Nat :=
  c.read.bind fun i =>
    if 0 ≤ i ∧ i < bound then .ok i.toNat else .error (.badValue column (toString i))

@[simp] theorem read_ofNat (n : Nat) : (ofNat n).read = .ok (n : Int) := rfl

theorem natBelow_ofNat {bound n : Nat} (column : String) (h : n < bound) :
    (ofNat n).natBelow bound column = .ok n := by
  simp only [natBelow, read_ofNat, Except.bind]
  rw [if_pos ⟨by omega, by omega⟩]
  simp

@[simp] theorem bool_ofBool (b : Bool) : (ofBool b).bool = .ok b := by
  cases b <;> rfl

end Cell

end Switchboard.Store
