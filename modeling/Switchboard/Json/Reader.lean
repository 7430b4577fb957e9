import Switchboard.Text.Ascii
import Switchboard.Value

/-!
# Reading JSON

A text is one value with blanks around it. Half of a surrogate pair, or a number beyond the finite
ones, is well formed, and becomes a broken value.
-/

namespace Switchboard.Json

def isBlank (c : Char) : Bool :=
  c == ' ' || c == '\t' || c == '\n' || c == '\r'

/-- The characters from the first that is not blank. -/
def skip (cs : List Char) : List Char :=
  cs.dropWhile isBlank

/-- A piece of a text: a character, or a code unit that an escape names. -/
inductive Piece where
  /-- A character that stands for itself, or a short escape. -/
  | char (c : Char)
  /-- Sixteen bits from an escape. -/
  | code (n : Nat)

def shortEscape? : Char → Option Char
  | '\x22' => some '\x22'
  | '\x5c' => some '\x5c'
  | '/' => some '/'
  | 'b' => some '\x08'
  | 'f' => some '\x0c'
  | 'n' => some '\n'
  | 'r' => some '\r'
  | 't' => some '\t'
  | _ => none

/-- The pieces up to the closing quote, and what follows it. -/
def pieces? : List Char → List Piece → Option (List Piece × List Char)
  | [], _ => none
  | '\x22' :: rest, acc => some (acc.reverse, rest)
  | '\x5c' :: 'u' :: a :: b :: c :: d :: rest, acc => do
    let n ← Text.ofDigits? 16 [a, b, c, d]
    pieces? rest (.code n :: acc)
  | '\x5c' :: c :: rest, acc => do
    let c ← shortEscape? c
    pieces? rest (.char c :: acc)
  | c :: rest, acc => if c.toNat < 0x20 then none else pieces? rest (.char c :: acc)

/-- The text of pieces: two halves of a pair make one character, and a half alone makes no text. -/
def join? : List Piece → Option (List Char)
  | [] => some []
  | .char c :: rest => (join? rest).map (c :: ·)
  | .code h :: .code l :: rest =>
    if 0xD800 ≤ h ∧ h < 0xDC00 then
      if 0xDC00 ≤ l ∧ l < 0xE000 then
        (join? rest).map (Char.ofNat (0x10000 + (h - 0xD800) * 0x400 + (l - 0xDC00)) :: ·)
      else none
    else if 0xDC00 ≤ h ∧ h < 0xE000 then none
    else (join? (.code l :: rest)).map (Char.ofNat h :: ·)
  | .code h :: rest =>
    if 0xD800 ≤ h ∧ h < 0xE000 then none else (join? rest).map (Char.ofNat h :: ·)

/-- A text after its opening quote. Nothing inside: it is well formed and yet no text. -/
def string? (cs : List Char) : Option (Option String × List Char) :=
  (pieces? cs []).map fun (ps, rest) => ((join? ps).map String.ofList, rest)

def digits? (cs : List Char) : Option (List Char × List Char) :=
  let ds := cs.takeWhile Char.isDigit
  if ds.isEmpty then none else some (ds, cs.drop ds.length)

def natOf (ds : List Char) : Nat :=
  (Text.ofDigits? 10 ds).getD 0

/-- The digits after a point, if there is one. -/
def fraction? : List Char → Option (Option (List Char) × List Char)
  | '.' :: rest => (digits? rest).map fun (ds, rest) => (some ds, rest)
  | rest => some (none, rest)

def exponent? : List Char → Option (Option Int × List Char)
  | 'e' :: rest | 'E' :: rest =>
    match rest with
    | '+' :: rest => (digits? rest).map fun (ds, rest) => (some (natOf ds : Int), rest)
    | '-' :: rest => (digits? rest).map fun (ds, rest) => (some (-(natOf ds : Int)), rest)
    | rest => (digits? rest).map fun (ds, rest) => (some (natOf ds : Int), rest)
  | rest => some (none, rest)

/-- The least and the greatest whole number; others are taken as numbers with a fraction. -/
def inWords (negative : Bool) (n : Nat) : Bool :=
  if negative then 0 < n && n ≤ 2 ^ 63 else n < 2 ^ 64

def number? (cs : List Char) : Option (Value × List Char) := do
  let (negative, cs) := match cs with
    | '-' :: rest => (true, rest)
    | cs => (false, cs)
  let (whole, cs) ← digits? cs
  if whole.head? = some '0' ∧ whole.length ≠ 1 then none
  else
    let (fraction, cs) ← fraction? cs
    let (exponent, cs) ← exponent? cs
    let n := natOf whole
    if fraction.isNone ∧ exponent.isNone ∧ inWords negative n then
      some (.int (if negative then -(n : Int) else n), cs)
    else
      let places := fraction.getD []
      let x : Double :=
        .ofDecimal negative (natOf (whole ++ places)) (exponent.getD 0 - places.length)
      some (if x.isFinite then .real x else .broken, cs)

/-- A value with a given key, or a broken table if the key is no text. -/
def entries (es : List (Option String × Value)) : Value :=
  match es.mapM fun e => e.1.map (·, e.2) with
  | some es => .table es
  | none => .broken

mutual

/-- A value after blanks. The fuel bounds the nesting and the number of items. -/
def value? : Nat → List Char → Option (Value × List Char)
  | 0, _ => none
  | fuel + 1, cs =>
    match skip cs with
    | 't' :: 'r' :: 'u' :: 'e' :: rest => some (.bool true, rest)
    | 'f' :: 'a' :: 'l' :: 's' :: 'e' :: rest => some (.bool false, rest)
    | 'n' :: 'u' :: 'l' :: 'l' :: rest => some (.null, rest)
    | '\x22' :: rest =>
      (string? rest).map fun (s?, rest) => ((s?.map Value.text).getD .broken, rest)
    | '[' :: rest =>
      match skip rest with
      | ']' :: rest => some (.list [], rest)
      | rest => items? fuel rest []
    | '\x7b' :: rest =>
      match skip rest with
      | '\x7d' :: rest => some (.table [], rest)
      | rest => members? fuel rest []
    | cs => number? cs

/-- The items of a list after its opening bracket. -/
def items? : Nat → List Char → List Value → Option (Value × List Char)
  | 0, _, _ => none
  | fuel + 1, cs, acc =>
    match value? fuel cs with
    | none => none
    | some (v, rest) =>
      match skip rest with
      | ',' :: rest => items? fuel rest (v :: acc)
      | ']' :: rest => some (.list (v :: acc).reverse, rest)
      | _ => none

/-- The members of a table after its opening brace. -/
def members? : Nat → List Char → List (Option String × Value) → Option (Value × List Char)
  | 0, _, _ => none
  | fuel + 1, cs, acc =>
    match skip cs with
    | '\x22' :: rest =>
      match string? rest with
      | none => none
      | some (key, rest) =>
        match skip rest with
        | ':' :: rest =>
          match value? fuel rest with
          | none => none
          | some (v, rest) =>
            match skip rest with
            | ',' :: rest => members? fuel rest ((key, v) :: acc)
            | '\x7d' :: rest => some (entries ((key, v) :: acc).reverse, rest)
            | _ => none
        | _ => none
    | _ => none

end

def read? (s : String) : Option Value :=
  let cs := s.toList
  match value? (2 * cs.length + 2) cs with
  | some (v, rest) => if (skip rest).isEmpty then some v else none
  | none => none

end Switchboard.Json
