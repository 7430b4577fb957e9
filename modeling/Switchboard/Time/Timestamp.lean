import Switchboard.Number.Power
import Switchboard.Text.Ascii
import Switchboard.Text.Blank
import Switchboard.Time.Calendar

/-!
# Timestamps

A moment in universal time to the nanosecond, and its text: written as date, `T`, time and `Z` with
the fewest groups of three fraction digits that are exact; read with blanks around the parts, any of
three marks between date and time, and an offset. A leap second is a second whose nanoseconds run on
past the end.
-/

namespace Switchboard

structure Timestamp where
  /-- Whole seconds since 1970-01-01, rounded down. -/
  second : Int
  /-- Nanoseconds after that second, more than a second's worth inside a leap second. -/
  nano : Nat
  deriving DecidableEq, Repr

namespace Timestamp

def perSecond : Nat := 1000000000

def toNanos (t : Timestamp) : Int :=
  t.second * perSecond + t.nano

/-- The moment is within a leap second. -/
def isLeap (t : Timestamp) : Bool :=
  perSecond ≤ t.nano

/-- The second of the day. -/
def ofDay (t : Timestamp) : Int :=
  t.second % 86400

/-- Nanoseconds from one moment to another. A leap second that one of them is within counts as one more
where the other's second of the day is later. -/
def nanosTo (since now : Timestamp) : Int :=
  let passed := now.toNanos - since.toNanos
  if since.isLeap ∧ since.ofDay < now.ofDay then passed + perSecond
  else if now.isLeap ∧ now.ofDay < since.ofDay then passed - perSecond
  else passed

/-- The moment that many nanoseconds after 1970-01-01. -/
def ofNanos (n : Int) : Timestamp :=
  ⟨n / perSecond, (n % perSecond).toNat⟩

def toMillis (t : Timestamp) : Int :=
  t.second * 1000 + t.nano / 1000000

/-- The moment that many milliseconds after 1970-01-01. -/
def ofMillis (n : Int) : Timestamp :=
  ofNanos (n * 1000000)

/-- The moment is in a year that times may have. -/
def inRange (t : Timestamp) : Bool :=
  let days := t.second / 86400
  Date.toDays ⟨Date.firstYear, 1, 1⟩ ≤ days && days ≤ Date.toDays ⟨Date.lastYear, 12, 31⟩

/-- A year with at least four digits, and with a sign outside 0 to 9999. -/
def yearText (y : Int) : String :=
  if 0 ≤ y ∧ y ≤ 9999 then Text.padded 4 y.natAbs
  else (if y < 0 then "-" else "+") ++ Text.padded 4 y.natAbs

/-- The fraction of a second: nothing, or three, six or nine digits. -/
def fractionText (nano : Nat) : String :=
  if nano = 0 then ""
  else if nano % 1000000 = 0 then "." ++ Text.padded 3 (nano / 1000000)
  else if nano % 1000 = 0 then "." ++ Text.padded 6 (nano / 1000)
  else "." ++ Text.padded 9 nano

def text (t : Timestamp) : String :=
  let date := Date.ofDays (t.second / 86400)
  let ofDay := (t.second % 86400).toNat
  let leap := perSecond ≤ t.nano
  let second := ofDay % 60 + if leap then 1 else 0
  let nano := if leap then t.nano - perSecond else t.nano
  yearText date.year ++ "-" ++ Text.padded 2 date.month ++ "-" ++ Text.padded 2 date.day ++ "T"
    ++ Text.padded 2 (ofDay / 3600) ++ ":" ++ Text.padded 2 (ofDay / 60 % 60) ++ ":"
    ++ Text.padded 2 second ++ fractionText nano ++ "Z"

/-- One to `most` digits after blanks, and what follows them. -/
def number? (most : Nat) (cs : List Char) : Option (Nat × List Char) :=
  let cs := Text.trimStart cs
  let digits := (cs.take most).takeWhile Char.isDigit
  if digits.isEmpty then none
  else (Text.ofDigits? 10 digits).map fun n => (n, cs.drop digits.length)

/-- A year: four digits at most, or any number of digits after a sign. -/
def year? (cs : List Char) : Option (Int × List Char) :=
  match Text.trimStart cs with
  | '-' :: rest => (unblanked rest).map fun (n, rest) => (-(n : Int), rest)
  | '+' :: rest => (unblanked rest).map fun (n, rest) => ((n : Int), rest)
  | rest => (number? 4 rest).map fun (n, rest) => ((n : Int), rest)
where
  /-- The digits that follow a sign directly. -/
  unblanked (cs : List Char) : Option (Nat × List Char) :=
    if cs.head?.any Char.isDigit then number? cs.length cs else none

def mark? (c : Char) (cs : List Char) : Option (List Char) :=
  match Text.trimStart cs with
  | d :: rest => if d = c then some rest else none
  | [] => none

/-- The digits of a fraction of a second; digits after the ninth say nothing. -/
def fraction? : List Char → Option (Nat × List Char)
  | '.' :: rest =>
    let digits := rest.takeWhile Char.isDigit
    if digits.isEmpty then none
    else
      let kept := digits.take 9
      (Text.ofDigits? 10 kept).map fun n => (n * 10 ^ (9 - kept.length), rest.drop digits.length)
  | rest => some (0, rest)

def pair? : List Char → Option (Nat × List Char)
  | a :: b :: rest =>
    (Text.ofDigits? 10 [a, b]).map fun n => (n, rest)
  | _ => none

/-- The seconds that a local time is ahead of universal time. -/
def offset? (cs : List Char) : Option (Int × List Char) := do
  let signed (sign : Int) (rest : List Char) : Option (Int × List Char) := do
    let (hours, rest) ← pair? rest
    let rest := rest.dropWhile fun c => c == ':' || Text.isBlank c
    let (minutes, rest) ← pair? rest
    if 60 ≤ minutes ∨ 24 ≤ hours then none else some (sign * (hours * 3600 + minutes * 60), rest)
  match Text.trimStart cs with
  | 'Z' :: rest | 'z' :: rest => some (0, rest)
  | '+' :: rest => signed 1 rest
  | '-' :: rest | '\u2212' :: rest => signed (-1) rest
  | a :: b :: c :: rest =>
    if [a, b, c].map Char.toUpper = ['U', 'T', 'C'] then some (0, rest) else none
  | _ => none

/-- Reads a moment that is written as a local time with its offset. -/
def parse? (s : String) : Option Timestamp := do
  let (year, cs) ← year? s.toList
  let (month, cs) ← number? 2 (← mark? '-' cs)
  let (day, cs) ← number? 2 (← mark? '-' cs)
  let cs ← match cs with
    | 'T' :: rest | 't' :: rest | ' ' :: rest => some rest
    | _ => none
  let (hour, cs) ← number? 2 cs
  let (minute, cs) ← number? 2 (← mark? ':' cs)
  let (second, cs) ← number? 2 (← mark? ':' cs)
  let (nano, cs) ← fraction? cs
  let (offset, cs) ← offset? cs
  let date : Date := ⟨year, month, day⟩
  if (Text.trimStart cs).isEmpty ∧ date.isValid ∧ Date.firstYear ≤ year ∧ year ≤ Date.lastYear
      ∧ hour < 24 ∧ minute < 60 ∧ second ≤ 60 then
    let leap := second = 60
    let time : Nat := hour * 3600 + minute * 60 + if leap then 59 else second
    let t : Timestamp :=
      ⟨date.toDays * 86400 + time - offset, nano + if leap then perSecond else 0⟩
    if t.inRange then some t else none
  else none

theorem toNanos_ofNanos (n : Int) : (ofNanos n).toNanos = n := by
  simp only [ofNanos, toNanos, perSecond]
  omega

end Timestamp

end Switchboard
