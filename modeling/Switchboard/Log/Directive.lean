import Switchboard.Log.Entry
import Switchboard.Number.Integer
import Switchboard.Number.Layout
import Switchboard.Number.Real
import Switchboard.Text.Ascii
import Switchboard.Text.Blank
import Switchboard.Text.Letter

/-!
# Directives

One directive of a log filter: a limit for the channels whose paths begin with a target, which may hold
only inside a span, or only where a field is there or has a value. Its text is read character by
character. Places in the text are counted from the first character that is not blank, but what is cut
out between two places is cut from the text with its blanks, so that blanks in front shift every part.
-/

namespace Switchboard.Log

/-- The most that a directive lets through: up to a level, or nothing. -/
abbrev Limit := Option Level

namespace Limit

def name : Limit → String
  | some level => level.name
  | none => "off"

def ofNumber? : Nat → Option Limit
  | 0 => some none
  | n => (Level.all.find? fun level => level.verbosity == n).map some

/-- The limit that a name in any case or a number denotes. -/
def ofName? (cs : List Char) : Option Limit :=
  let numbered := match readUnsigned (2 ^ 64 - 1) cs with
    | .ok n => ofNumber? n
    | .error _ => none
  let s := String.ofList cs
  let named :=
    if Text.sameLetters s "off" then some none
    else (Level.all.find? fun level => Text.sameLetters level.name s).map some
  numbered.or named

/-- An entry of a level is let through. -/
def admits (l : Limit) (level : Level) : Bool :=
  l.any fun most => level.verbosity ≤ most.verbosity

end Limit

/-- What a directive asks of a field: that it is there, or that it has a value, by its text. -/
structure Criterion where
  name : String
  value : Option String
  deriving DecidableEq, Repr

namespace Criterion

/-- A value in the one way that it is written: truth values and numbers are known, anything else is a
pattern and stays as it is. -/
def normal (cs : List Char) : String :=
  let s := String.ofList cs
  if s = "true" ∨ s = "false" then s
  else
    match readUnsigned (2 ^ 64 - 1) cs with
    | .ok n => toString n
    | .error _ =>
      match cs, readUnsigned (2 ^ 63) (cs.drop 1) with
      | '-' :: d :: _, .ok n => if d.isDigit then toString (-Int.ofNat n) else s
      | _, _ => ((Binary.read? cs : Option Double).map Binary.text).getD s

/-- The criterion that a text denotes. What follows a second equals sign is passed over. -/
def ofText (cs : List Char) : Criterion where
  name := String.ofList (cs.takeWhile (· != '='))
  value := match cs.dropWhile (· != '=') with
    | _ :: rest => some (normal (rest.takeWhile (· != '=')))
    | [] => none

def text (c : Criterion) : String :=
  match c.value with
  | some v => c.name ++ "=" ++ v
  | none => c.name

end Criterion

structure Directive where
  /-- What the paths of the channels begin with; none for all channels. -/
  target : Option String
  /-- The span that it holds in, if it does not hold everywhere. -/
  span : Option String
  fields : List Criterion
  limit : Limit
  deriving DecidableEq, Repr

namespace Directive

/-- A part in brackets: a span, and criteria in braces. -/
def bracketed (span : String) (fields : List String) : String :=
  let fields := if fields.isEmpty then "" else "\x7b" ++ ",".intercalate fields ++ "\x7d"
  "[" ++ span ++ fields ++ "]"

/-- A target and a part in brackets, and the limit after an equals sign if there are any. -/
def layout (target : Option String) (brackets : Option String) (limit : Limit) : String :=
  let scope := target.getD "" ++ brackets.getD ""
  if target.isNone && brackets.isNone then limit.name else scope ++ "=" ++ limit.name

def text (d : Directive) : String :=
  let brackets :=
    if d.span.isSome || !d.fields.isEmpty then
      some (bracketed (d.span.getD "") (d.fields.map Criterion.text))
    else none
  layout d.target brackets d.limit

/-! ## Reading -/

/-- What is wrong with a text that is no directive. -/
inductive Fault where
  /-- Its parts are not in order. -/
  | form
  /-- What stands for a limit is none. -/
  | limit
  deriving DecidableEq, Repr

def Fault.message : Fault → String
  | .form => "invalid filter directive"
  | .limit => "error parsing level filter: expected one of \"off\", \"error\", \"warn\", \"info\", "
      ++ "\"debug\", \"trace\", or a number 0-5"

/-- What is being read, with what is read of it. -/
inductive Stage where
  | start
  /-- A limit or a target. -/
  | word (read : List Char)
  | span (read : List Char)
  | field (read : List Char)
  | fields
  | closed
  /-- A limit after a scope. -/
  | limit (read : List Char)

/-- A directive may begin with the character. -/
def begins (c : Char) : Bool :=
  c == '-' || c == ':' || c == '_' || Text.isAlphanumeric c

/-- One character: `c` decides, `cut` is what stands at its place in the text with its blanks. -/
def step? (d : Directive) (stage : Stage) (c cut : Char) : Option (Directive × Stage) :=
  match stage, c with
  | .start, '[' => some (d, .span [])
  | .start, c => if begins c then some (d, .word [cut]) else none
  | .word read, '=' => some ({ d with target := some (String.ofList read) }, .limit [])
  | .word read, '[' => some ({ d with target := some (String.ofList read) }, .span [])
  | .word read, _ => some (d, .word (read ++ [cut]))
  | .span read, ']' => some ({ d with span := some (String.ofList read) }, .closed)
  | .span read, '\x7b' =>
    some ({ d with span := if read.isEmpty then none else some (String.ofList read) }, .field [])
  | .span read, _ => some (d, .span (read ++ [cut]))
  | .field read, '\x7d' =>
    if read.isEmpty then none
    else some ({ d with fields := d.fields ++ [Criterion.ofText read] }, .fields)
  | .field read, _ => some (d, .field (read ++ [cut]))
  | .fields, ']' => some (d, .closed)
  | .closed, '=' => some (d, .limit [])
  | .limit read, _ => some (d, .limit (read ++ [cut]))
  | _, _ => none

def steps? : Directive → Stage → List (Char × Char) → Option (Directive × Stage)
  | d, stage, [] => some (d, stage)
  | d, stage, (c, cut) :: rest => do
    let (d, stage) ← step? d stage c cut
    steps? d stage rest

/-- The directive at the end of its text; `rest` is what was not looked at. -/
def finish (d : Directive) (stage : Stage) (rest : List Char) : Except Fault Directive :=
  match stage with
  | .word read =>
    let word := read ++ rest
    match Limit.ofName? word with
    | some limit => .ok { d with limit }
    | none => .ok { d with target := some (String.ofList word), limit := some .trace }
  | .limit read =>
    let word := read ++ rest
    if word.isEmpty then .ok { d with limit := some .trace }
    else
      match Limit.ofName? word with
      | some limit => .ok { d with limit }
      | none => .error .limit
  | .closed => .ok d
  | _ => .error .form

def read (cs : List Char) : Except Fault Directive :=
  let looked := Text.trim cs
  match steps? ⟨none, none, [], some .trace⟩ .start (looked.zip cs) with
  | some (d, stage) => finish d stage (cs.drop looked.length)
  | none => .error .form

end Directive

end Switchboard.Log
