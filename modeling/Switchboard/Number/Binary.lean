import Switchboard.Number.Power

/-!
# Binary floating point

A floating format is fixed by the sizes of its two fields. A number of it is a sign and a magnitude,
the magnitude being the exponent and fraction fields read as one natural number: this order of the
magnitudes is the order of the absolute values, so comparison is comparison of integers (`rank`).
The magnitude of a quotient is found in exact arithmetic, to nearest and a tie to even (`nearest`).
-/

namespace Switchboard

/-- The sizes of a binary format's fields, in bits. -/
structure Format where
  /-- Stored bits of the fraction. -/
  fraction : Nat
  exponent : Nat
  deriving DecidableEq, Repr

namespace Format

def single : Format := ⟨23, 8⟩

def double : Format := ⟨52, 11⟩

/-- The smallest positive number is two to the power `-depth`. -/
def depth (f : Format) : Nat :=
  2 ^ (f.exponent - 1) - 2 + f.fraction

/-- The magnitude of infinity; larger magnitudes are not numbers. -/
def infinity (f : Format) : Nat :=
  (2 ^ f.exponent - 1) * 2 ^ f.fraction

/-- The integer that a finite magnitude scales. -/
def significand (f : Format) (m : Nat) : Nat :=
  if m < 2 ^ f.fraction then m else 2 ^ f.fraction + m % 2 ^ f.fraction

/-- The power of two that scales the significand, above `-depth`. -/
def shift (f : Format) (m : Nat) : Nat :=
  m / 2 ^ f.fraction - 1

/-- Numerator of a finite magnitude's value; the denominator is `2 ^ depth`. -/
def scaled (f : Format) (m : Nat) : Nat :=
  f.significand m * 2 ^ f.shift m

/-- The quotient rounded to an integer: to nearest, a tie to even. -/
def roundEven (num den : Nat) : Nat :=
  let q := num / den
  let r := num % den
  if den < 2 * r ∨ (den = 2 * r ∧ q % 2 = 1) then q + 1 else q

/-- The magnitude nearest to `num / den`. Carrying out of the fraction runs into the exponent, which
is the next binade; above the largest finite number it is infinity. -/
def nearest (f : Format) (num den : Nat) : Nat :=
  let n := num * 2 ^ f.depth
  let s := (n / den).log2 - f.fraction
  min (s * 2 ^ f.fraction + roundEven n (den * 2 ^ s)) f.infinity

end Format

structure Binary (f : Format) where
  negative : Bool
  magnitude : Nat
  deriving DecidableEq, Repr

abbrev Single := Binary .single

abbrev Double := Binary .double

namespace Binary

variable {f : Format}

def isNaN (x : Binary f) : Bool :=
  f.infinity < x.magnitude

def isFinite (x : Binary f) : Bool :=
  x.magnitude < f.infinity

/-- The place of a number in the order; both zeros have the same. -/
def rank (x : Binary f) : Int :=
  if x.negative then -(x.magnitude : Int) else x.magnitude

/-- Below, as numbers. A NaN is below nothing and nothing is below it. -/
def lt (x y : Binary f) : Bool :=
  !x.isNaN && !y.isNaN && x.rank < y.rank

/-- At most, as numbers. -/
def le (x y : Binary f) : Bool :=
  !x.isNaN && !y.isNaN && x.rank ≤ y.rank

/-- Equal as numbers: the zeros are equal, a NaN equals nothing. -/
def same (x y : Binary f) : Bool :=
  x.le y && y.le x

def ofInt (i : Int) : Binary f :=
  ⟨i < 0, f.nearest i.natAbs 1⟩

/-- The nearest number to `± digits * 10 ^ exponent`. -/
def ofDecimal (negative : Bool) (digits : Nat) (exponent : Int) : Binary f :=
  if digits = 0 then ⟨negative, 0⟩
  else if 2 ^ f.exponent < exponent then ⟨negative, f.infinity⟩
  else if exponent + (Nat.toDigits 10 digits).length < -(2 ^ f.exponent : Int) then ⟨negative, 0⟩
  else if 0 ≤ exponent then ⟨negative, f.nearest (digits * 10 ^ exponent.toNat) 1⟩
  else ⟨negative, f.nearest digits (10 ^ (-exponent).toNat)⟩

def convert (g : Format) (x : Binary f) : Binary g :=
  if x.isNaN then ⟨x.negative, g.infinity + 1⟩
  else if x.isFinite then ⟨x.negative, g.nearest (f.scaled x.magnitude) (2 ^ f.depth)⟩
  else ⟨x.negative, g.infinity⟩

def infinite : Binary f := ⟨false, f.infinity⟩

def nan : Binary f := ⟨false, f.infinity + 1⟩

def neg (x : Binary f) : Binary f :=
  { x with negative := !x.negative }

/-- The lower bound or the upper bound where a number is outside them, and the number itself
elsewhere; in particular a zero keeps its sign between bounds that are zero. -/
def clamp (x lower upper : Binary f) : Binary f :=
  if x.lt lower then lower else if upper.lt x then upper else x

theorem lt_iff {x y : Binary f} :
    x.lt y = true ↔ x.isNaN = false ∧ y.isNaN = false ∧ x.rank < y.rank := by
  simp [lt, and_assoc]

theorem le_iff {x y : Binary f} :
    x.le y = true ↔ x.isNaN = false ∧ y.isNaN = false ∧ x.rank ≤ y.rank := by
  simp [le, and_assoc]

theorem isNaN_of_isFinite {x : Binary f} (h : x.isFinite = true) : x.isNaN = false := by
  simp only [isFinite, isNaN, decide_eq_true_eq, decide_eq_false_iff_not] at h ⊢
  exact Nat.not_lt_of_lt h

/-- Of two numbers one is at most the other if it is not above it. -/
theorem le_of_not_lt {x y : Binary f} (hx : x.isNaN = false) (hy : y.isNaN = false)
    (h : y.lt x = false) : x.le y = true := by
  rw [le_iff]
  rw [Bool.eq_false_iff, Ne, lt_iff] at h
  exact ⟨hx, hy, Int.not_lt.1 fun hlt => h ⟨hy, hx, hlt⟩⟩

theorem lt_of_lt_of_le {x y z : Binary f} (h : x.lt y = true) (h' : y.le z = true) : x.lt z = true := by
  obtain ⟨hx, -, hxy⟩ := lt_iff.1 h
  obtain ⟨-, hz, hyz⟩ := le_iff.1 h'
  exact lt_iff.2 ⟨hx, hz, Int.lt_of_lt_of_le hxy hyz⟩

theorem le_trans {x y z : Binary f} (h : x.le y = true) (h' : y.le z = true) : x.le z = true := by
  obtain ⟨hx, -, hxy⟩ := le_iff.1 h
  obtain ⟨-, hz, hyz⟩ := le_iff.1 h'
  exact le_iff.2 ⟨hx, hz, Int.le_trans hxy hyz⟩

theorem not_lt_of_le {x y : Binary f} (h : x.le y = true) : y.lt x = false := by
  obtain ⟨-, -, hle⟩ := le_iff.1 h
  rw [Bool.eq_false_iff, Ne, lt_iff]
  exact fun hlt => Int.not_lt.2 hle hlt.2.2

/-- A number brought between bounds that are in order is at most the upper one. -/
theorem clamp_le {x lower upper : Binary f} (hx : x.isNaN = false) (h : lower.le upper = true) :
    (x.clamp lower upper).le upper = true := by
  unfold clamp
  split
  · exact h
  · split
    · obtain ⟨-, hu, -⟩ := le_iff.1 h
      exact le_iff.2 ⟨hu, hu, Int.le_refl _⟩
    · rename_i hlt
      exact le_of_not_lt hx (le_iff.1 h).2.1 (Bool.eq_false_iff.2 hlt)

/-- A number brought between bounds that are in order is at least the lower one. -/
theorem le_clamp {x lower upper : Binary f} (hx : x.isNaN = false) (h : lower.le upper = true) :
    lower.le (x.clamp lower upper) = true := by
  obtain ⟨hl, -, -⟩ := le_iff.1 h
  unfold clamp
  split
  · exact le_iff.2 ⟨hl, hl, Int.le_refl _⟩
  · split
    · exact h
    · rename_i hlt _
      exact le_of_not_lt hl hx (Bool.eq_false_iff.2 hlt)

end Binary

end Switchboard
