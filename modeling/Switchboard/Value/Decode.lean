import Switchboard.Value

/-!
# Reading values by type

A record of fields is read from a table, where unknown keys are passed over and a known one may stand
once, or from a list with the values in the order of the fields.
-/

namespace Switchboard.Value

def bool? : Value → Option Bool
  | bool b => some b
  | _ => none

def text? : Value → Option String
  | text s => some s
  | _ => none

def intIn? (least most : Int) : Value → Option Int
  | int i => if least ≤ i ∧ i ≤ most then some i else none
  | _ => none

def int64? (v : Value) : Option Int :=
  v.intIn? (-(2 ^ 63)) (2 ^ 63 - 1)

def natBelow? (bound : Nat) (v : Value) : Option Nat :=
  (v.intIn? 0 (bound - 1)).map Int.toNat

def byte? (v : Value) : Option UInt8 :=
  (v.natBelow? (2 ^ 8)).map .ofNat

def half? (v : Value) : Option UInt16 :=
  (v.natBelow? (2 ^ 16)).map .ofNat

def word? (v : Value) : Option UInt32 :=
  (v.natBelow? (2 ^ 32)).map .ofNat

def long? (v : Value) : Option UInt64 :=
  (v.natBelow? (2 ^ 64)).map .ofNat

def single? : Value → Option Single
  | int i => some (.ofInt i)
  | real x => some (x.convert .single)
  | _ => none

def optional? {α : Type} (read : Value → Option α) : Value → Option (Option α)
  | null => some none
  | v => (read v).map some

def list? {α : Type} (read : Value → Option α) : Value → Option (List α)
  | list vs => vs.mapM read
  | _ => none

/-- The name of a choice without content: the name itself, or a table from it to nothing. -/
def choice? : Value → Option String
  | text s => some s
  | table [(s, null)] => some s
  | _ => none

/-- The values that were given for the fields of a record. -/
abbrev Fields := String → Option Value

/-- The values for the named fields. As a list they are given in the order of the names, and at least
so many as must be given. -/
def fields? (names : List String) (least : Nat) : Value → Option Fields
  | table es =>
    if names.all fun name => (es.countP fun e => e.1 == name) ≤ 1 then
      some fun name => es.lookup name
    else none
  | list vs =>
    if least ≤ vs.length ∧ vs.length ≤ names.length then some fun name => (names.zip vs).lookup name
    else none
  | _ => none

def Fields.required {α : Type} (fs : Fields) (name : String) (read : Value → Option α) : Option α :=
  (fs name).bind read

/-- A field that stands for a default where it is not given. -/
def Fields.withDefault {α : Type} (fs : Fields) (name : String) (read : Value → Option α)
    (default : α) : Option α :=
  match fs name with
  | some v => read v
  | none => some default

def Fields.optional {α : Type} (fs : Fields) (name : String) (read : Value → Option α) :
    Option (Option α) :=
  fs.withDefault name (optional? read) none

end Switchboard.Value
