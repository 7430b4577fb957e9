import Switchboard.Toml.Token
import Switchboard.Value

/-!
# TOML numbers and times

A number is a word, with a period, a plus sign and further words where it has a fraction or an
exponent. Single underscores may stand between digits. A time is recognised by its marks; nothing in
the settings is a time, so what it says is not looked at.
-/

namespace Switchboard.Toml

/-- The digits in front of a word, their sign apart, and what follows them. -/
structure Digits where
  negative : Bool
  digits : List Char
  rest : List Char

/-- Underscores stand between digits, and one at a time. -/
def spaced : List Char → Bool
  | [] => false
  | ['_'] => false
  | '_' :: '_' :: _ => false
  | [_] => true
  | _ :: rest => spaced rest

/-- Digits of a base in front of a word. -/
def digits? (signed zeros : Bool) (base : Nat) (s : List Char) : Option Digits :=
  let (negative, s) : Bool × List Char := match s with
    | '-' :: rest => if signed then (true, rest) else (false, s)
    | s => (false, s)
  let body := s.takeWhile fun c => c == '_' || (Text.digit? base c).isSome
  let digits := body.filter (· != '_')
  if body.head? = some '_' ∨ !spaced body then none
  else if !zeros ∧ digits.head? = some '0' ∧ 1 < digits.length then none
  else some ⟨negative, digits, s.drop body.length⟩

/-- A whole number of sixty-four bits that takes up a word. -/
def whole? (base : Nat) (s : List Char) : Option Value := do
  let d ← digits? (base == 10) (base != 10) base s
  let n ← Text.ofDigits? base d.digits
  let i : Int := if d.negative then -(n : Int) else n
  if d.rest.isEmpty ∧ -(2 ^ 63) ≤ i ∧ i < 2 ^ 63 then some (.int i) else none

/-- The number after an exponent mark, in the same word or behind a plus sign. -/
def exponent? (s : List Char) (ts : List Token) : Option (Int × List Token) := do
  let (d, ts) ←
    if s.isEmpty then
      match ts with
      | .plus :: .word w :: ts => (digits? false true 10 w).map (·, ts)
      | .word w :: ts => (digits? false true 10 w).map (·, ts)
      | _ => none
    else (digits? true true 10 s).map (·, ts)
  let n ← Text.ofDigits? 10 d.digits
  if d.rest.isEmpty then some (if d.negative then -(n : Int) else n, ts) else none

/-- A finite number with digits before and after a period. -/
def real? (whole : Digits) (places rest : List Char) (ts : List Token) :
    Option (Value × List Token) := do
  let (exponent, ts) ← match rest with
    | [] => some ((0 : Int), ts)
    | 'e' :: rest | 'E' :: rest => exponent? rest ts
    | _ => none
  let n ← Text.ofDigits? 10 (whole.digits ++ places)
  let x : Double := .ofDecimal whole.negative n (exponent - places.length)
  if x.isFinite then some (.real x, ts) else none

def number? (s : List Char) (ts : List Token) : Option (Value × List Token) :=
  match s with
  | '0' :: 'x' :: rest => (whole? 16 rest).map (·, ts)
  | '0' :: 'o' :: rest => (whole? 8 rest).map (·, ts)
  | '0' :: 'b' :: rest => (whole? 2 rest).map (·, ts)
  | s =>
    if s.contains 'e' || s.contains 'E' then do
      let d ← digits? true false 10 s
      real? d [] d.rest ts
    else
      match ts with
      | .period :: ts =>
        match ts with
        | .word after :: ts => do
          let d ← digits? true false 10 s
          let p ← digits? false true 10 after
          if d.rest.isEmpty then real? d p.digits p.rest ts else none
        | _ => none
      | ts =>
        if s = ['i', 'n', 'f'] then some (.real (.infinite : Double), ts)
        else if s = ['-', 'i', 'n', 'f'] then some (.real (Binary.infinite.neg : Double), ts)
        else if s = ['n', 'a', 'n'] then some (.real (.nan : Double), ts)
        else if s = ['-', 'n', 'a', 'n'] then some (.real (Binary.nan.neg : Double), ts)
        else (whole? 10 s).map (·, ts)

/-- A time as a value: a table that nothing reads. -/
def moment : Value := .table [("datetime", .null)]

/-- What follows the hour of a time, whose colon has been read or not. -/
def clock? (colon : Bool) (ts : List Token) : Option (List Token) := do
  let ts := match ts with
    | .blank [' '] :: .word _ :: rest => rest
    | ts => ts
  let (colon, ts) := match ts with
    | .colon :: rest => if colon then (true, ts) else (true, rest)
    | ts => (colon, ts)
  if !colon then some ts
  else
    let ts ← match ts with
      | .word _ :: .colon :: .word _ :: rest => some rest
      | _ => none
    let ts ← after .period ts
    let ts ← after .plus ts
    after .colon ts
where
  /-- A mark and a word, if there is the mark. -/
  after (mark : Token) : List Token → Option (List Token)
    | t :: rest =>
      if t = mark then
        match rest with
        | .word _ :: rest => some rest
        | _ => none
      else some (t :: rest)
    | [] => some []

/-- One list of characters stands in another. -/
def hasInfix (part : List Char) : List Char → Bool
  | [] => part.isEmpty
  | c :: rest => part.isPrefixOf (c :: rest) || hasInfix part rest

/-- A word is the beginning of a date. -/
def isDate (s : List Char) : Bool :=
  s.contains 'T' || s.contains 't'
    || ((s.drop 1).contains '-' && !hasInfix ['e', '-'] s && !hasInfix ['E', '-'] s)

/-- A number or a time that begins with a word. -/
def numberOrTime? (s : List Char) (ts : List Token) : Option (Value × List Token) :=
  if isDate s then (clock? false ts).map (moment, ·)
  else
    match ts with
    | .colon :: ts => (clock? true ts).map (moment, ·)
    | ts => number? s ts

end Switchboard.Toml
