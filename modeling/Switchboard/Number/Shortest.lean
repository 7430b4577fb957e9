import Switchboard.Number.Binary

/-!
# Shortest decimals

The real numbers that round to one binary number form an interval around it, whose ends belong to it
exactly when its magnitude is even. A decimal inside reads back as that number. `Decimal.shortest` is
the one with the fewest digits, and of those the nearest: for each count of digits the value's two
neighbours on the grid of decimals with so many digits are tried, since one of the two is inside if
any point of the grid is.
-/

namespace Switchboard

/-- What becomes of a number halfway between two candidates. -/
inductive Tie where
  /-- The candidate farther from zero. -/
  | away
  /-- The candidate with the even last digit. -/
  | even
  deriving DecidableEq, Repr

/-- The number `digits * 10 ^ exponent`. -/
structure Decimal where
  digits : Nat
  /-- The place of the last digit. -/
  exponent : Int
  deriving DecidableEq, Repr

namespace Decimal

def width (n : Nat) : Nat :=
  (Nat.toDigits 10 n).length

/-- The same value without zeros at the end; the fuel bounds the zeros taken off. -/
def trimmed : Nat → Decimal → Decimal
  | 0, d => d
  | fuel + 1, d =>
    if d.digits % 10 = 0 then trimmed fuel ⟨d.digits / 10, d.exponent + 1⟩ else d

/-- The exponent of ten of a positive quotient's first digit. -/
def leading (num den : Nat) : Int :=
  if den ≤ num then (width (num / den) : Int) - 1
  else -(width ((den + num - 1) / num - 1) : Int)

/-- An interval of positive rationals around a point, all over one denominator. -/
structure Interval where
  lower : Nat
  point : Nat
  upper : Nat
  den : Nat
  /-- The ends belong to the interval. -/
  closed : Bool

/-- The numbers that round to a finite positive magnitude. -/
def Interval.of (f : Format) (m : Nat) : Interval where
  lower := f.scaled (m - 1) + f.scaled m
  point := 2 * f.scaled m
  upper := f.scaled m + f.scaled (m + 1)
  den := 2 * 2 ^ f.depth
  closed := m % 2 = 0

/-- The interval in units of a power of ten. -/
def Interval.inUnits (i : Interval) (exponent : Int) : Interval :=
  let up := 10 ^ (-exponent).toNat
  { i with
    lower := i.lower * up, point := i.point * up, upper := i.upper * up
    den := i.den * 10 ^ exponent.toNat }

def Interval.holds (i : Interval) (n : Nat) : Bool :=
  let x := n * i.den
  if i.closed then i.lower ≤ x && x ≤ i.upper else i.lower < x && x < i.upper

/-- The whole number in the interval that is nearest to its point, of the point's two neighbours. -/
def Interval.pick? (i : Interval) (tie : Tie) : Option Nat :=
  let below := i.point / i.den
  let rest := i.point % i.den
  let above := below + 1
  let nearer :=
    if 2 * rest < i.den then below
    else if i.den < 2 * rest then above
    else match tie with
      | .away => above
      | .even => if below % 2 = 0 then below else above
  let farther := if nearer = below then above else below
  if i.holds nearer then some nearer else if i.holds farther then some farther else none

/-- The first count of digits for which a decimal is inside, counting up from `count`. -/
def search (i : Interval) (tie : Tie) (first : Int) : Nat → Nat → Decimal
  | 0, _ => ⟨i.point / i.den, 0⟩
  | fuel + 1, count =>
    let exponent := first + 1 - count
    match (i.inUnits exponent).pick? tie with
    | some n => trimmed (width n) ⟨n, exponent⟩
    | none => search i tie first fuel (count + 1)

/-- The decimal with the fewest digits that reads back as a finite positive magnitude. Seventeen
digits tell any two numbers of sixty-four bits apart. -/
def shortest (f : Format) (tie : Tie) (m : Nat) : Decimal :=
  let i := Interval.of f m
  search i tie (leading i.point i.den) 18 1

end Decimal

end Switchboard
