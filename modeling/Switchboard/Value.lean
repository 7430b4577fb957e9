import Switchboard.Number.Layout

/-!
# Values

The tree that a settings text, a status report or a message is read into. A table keeps every entry in
the order of the text, also a repeated key: what a repeated key means is up to who reads the value.
-/

namespace Switchboard

inductive Value where
  | null
  | bool (b : Bool)
  | int (i : Int)
  /-- A number with a fraction or an exponent. -/
  | real {f : Format} (x : Binary f)
  | text (s : String)
  | list (vs : List Value)
  | table (es : List (String × Value))
  /-- A well-formed value outside what texts and numbers can hold. It may stand where nothing reads it. -/
  | broken
  deriving Inhabited

namespace Value

def ofOption {α : Type} (f : α → Value) : Option α → Value
  | some a => f a
  | none => null

def nat (n : Nat) : Value := int n

end Value

end Switchboard
