import Switchboard.Value

/-!
# Writing JSON

A value on one line, or with each item on a line of its own, two blanks deeper than its container.
Characters outside ASCII stand for themselves; control characters are escaped.
-/

namespace Switchboard.Json

def hexDigit (n : Nat) : Char :=
  (Nat.toDigits 16 n).headD '0'

def escape (c : Char) : List Char :=
  if c = '\x22' then ['\x5c', '\x22']
  else if c = '\x5c' then ['\x5c', '\x5c']
  else if c = '\n' then ['\x5c', 'n']
  else if c = '\r' then ['\x5c', 'r']
  else if c = '\t' then ['\x5c', 't']
  else if c = '\x08' then ['\x5c', 'b']
  else if c = '\x0c' then ['\x5c', 'f']
  else if c.toNat < 0x20 then
    ['\x5c', 'u', '0', '0', hexDigit (c.toNat / 16), hexDigit (c.toNat % 16)]
  else [c]

def quote (s : String) : String :=
  String.ofList ('\x22' :: s.toList.flatMap escape ++ ['\x22'])

structure Style where
  /-- What an item is put after, at a depth. -/
  newline : Nat → String
  /-- What stands between a key and its value. -/
  colon : String

/-- All on one line without blanks. -/
def Style.compact : Style := ⟨fun _ => "", ":"⟩

/-- Each item on a line of its own. -/
def Style.pretty : Style := ⟨fun depth => "\n".pushn ' ' (2 * depth), ": "⟩

def enclose (st : Style) (depth : Nat) (opening closing : String) (items : List String) : String :=
  if items.isEmpty then opening ++ closing
  else
    opening ++ st.newline (depth + 1) ++ ("," ++ st.newline (depth + 1)).intercalate items
      ++ st.newline depth ++ closing

mutual

def write (st : Style) (depth : Nat) : Value → String
  | .null | .broken => "null"
  | .bool b => if b then "true" else "false"
  | .int i => toString i
  | .real x => x.json
  | .text s => quote s
  | .list vs => enclose st depth "[" "]" (writeItems st (depth + 1) vs)
  | .table es => enclose st depth "\x7b" "\x7d" (writeEntries st (depth + 1) es)

def writeItems (st : Style) (depth : Nat) : List Value → List String
  | [] => []
  | v :: rest => write st depth v :: writeItems st depth rest

def writeEntries (st : Style) (depth : Nat) : List (String × Value) → List String
  | [] => []
  | (k, v) :: rest => (quote k ++ st.colon ++ write st depth v) :: writeEntries st depth rest

end

def compact (v : Value) : String :=
  write .compact 0 v

def pretty (v : Value) : String :=
  write .pretty 0 v

end Switchboard.Json
