import Switchboard.Text.Ascii

/-!
# TOML tokens

A text is cut into tokens before its structure is looked at: marks, blanks, comments, line ends, words
and quoted texts. A word is a run of letters, digits, dashes and underscores, so a number is one word
or several with marks between them. A carriage return counts only before a line feed, and then not at
all.
-/

namespace Switchboard.Toml

inductive Token where
  | newline
  | blank (s : List Char)
  /-- From a hash to the end of the line. -/
  | comment
  /-- The mark between a key and its value. -/
  | equals
  /-- The mark between the parts of a key or of a number. -/
  | period
  | comma
  | colon
  | plus
  | openBrace
  | closeBrace
  | openBracket
  | closeBracket
  /-- A run of letters, digits, dashes and underscores. -/
  | word (s : List Char)
  /-- A text in quotes, on one line or with quotes that go over several. -/
  | text (s : String) (multiline : Bool)
  deriving DecidableEq, Repr

def isWordChar (c : Char) : Bool :=
  c.isAlphanum || c == '-' || c == '_'

def isCommentChar (c : Char) : Bool :=
  c == '\t' || 0x20 ≤ c.toNat

def isTextChar (c : Char) : Bool :=
  isCommentChar c && c.toNat != 0x7F

/-- Line ends of two characters become one. -/
def foldLines : List Char → List Char
  | '\r' :: '\n' :: rest => '\n' :: foldLines rest
  | c :: rest => c :: foldLines rest
  | [] => []

/-- The character that a number names, if it names one. -/
def ofCode? (n : Nat) : Option Char :=
  if n.isValidChar then some (Char.ofNat n) else none

/-- Blanks and line ends. -/
def isSpace (c : Char) : Bool :=
  c == ' ' || c == '\t' || c == '\n'

/-- What follows a backslash at the end of a line: blanks, a line end, and more of both. -/
def continued? (cs : List Char) : Option (List Char) :=
  match cs.dropWhile fun c => c == ' ' || c == '\t' with
  | '\n' :: rest => some (rest.dropWhile isSpace)
  | _ => none

/-- The character of an escape, and what follows it. -/
def escape? : List Char → Option (Char × List Char)
  | '\x22' :: rest => some ('\x22', rest)
  | '\x5c' :: rest => some ('\x5c', rest)
  | 'b' :: rest => some ('\x08', rest)
  | 'f' :: rest => some ('\x0c', rest)
  | 'n' :: rest => some ('\n', rest)
  | 'r' :: rest => some ('\r', rest)
  | 't' :: rest => some ('\t', rest)
  | 'u' :: rest => code 4 rest
  | 'U' :: rest => code 8 rest
  | _ => none
where
  /-- The character that so many hexadecimal digits name. -/
  code (count : Nat) (rest : List Char) : Option (Char × List Char) :=
    let digits := rest.take count
    if digits.length < count then none
    else ((Text.ofDigits? 16 digits).bind ofCode?).map fun c => (c, rest.drop count)

/-- How a quoted text is closed, and what it may hold. -/
structure Quotes where
  mark : Char
  /-- It is closed by three of them, and may go over several lines. -/
  multiline : Bool
  escapes : Bool

/-- The characters up to the closing quotes, last one first before `acc`, and what follows. Up to two
quotes directly before three closing ones belong to the text. -/
def quoted? (q : Quotes) : Nat → List Char → List Char → Option (List Char × List Char)
  | 0, _, _ => none
  | _, [], _ => none
  | fuel + 1, c :: rest, acc =>
    if c = q.mark then
      if !q.multiline then some (acc, rest)
      else
        let more := (rest.takeWhile (· == c)).length
        if more = 0 then quoted? q fuel rest (c :: acc)
        else if more = 1 then quoted? q fuel (rest.drop 1) (c :: c :: acc)
        else
          let extra := min (more - 2) 2
          some (List.replicate extra c ++ acc, rest.drop (2 + extra))
    else if c = '\n' then
      if q.multiline then quoted? q fuel rest (c :: acc) else none
    else if c = '\x5c' ∧ q.escapes then
      match escape? rest with
      | some (c, rest) => quoted? q fuel rest (c :: acc)
      | none =>
        if q.multiline then (continued? rest).bind fun rest => quoted? q fuel rest acc else none
    else if isTextChar c then quoted? q fuel rest (c :: acc)
    else none

/-- A quoted text after its first quote. -/
def text? (mark : Char) (escapes : Bool) (cs : List Char) : Option (Token × List Char) :=
  let (multiline, cs) : Bool × List Char := match cs with
    | a :: b :: rest =>
      if a = mark ∧ b = mark then (true, if rest.head? = some '\n' then rest.drop 1 else rest)
      else (false, cs)
    | cs => (false, cs)
  (quoted? ⟨mark, multiline, escapes⟩ (cs.length + 1) cs []).map fun (acc, rest) =>
    (.text (String.ofList acc.reverse) multiline, rest)

/-- The first token, and what follows it. -/
def token? : List Char → Option (Token × List Char)
  | '\n' :: rest => some (.newline, rest)
  | '#' :: rest => some (.comment, rest.dropWhile isCommentChar)
  | '=' :: rest => some (.equals, rest)
  | '.' :: rest => some (.period, rest)
  | ',' :: rest => some (.comma, rest)
  | ':' :: rest => some (.colon, rest)
  | '+' :: rest => some (.plus, rest)
  | '\x7b' :: rest => some (.openBrace, rest)
  | '\x7d' :: rest => some (.closeBrace, rest)
  | '[' :: rest => some (.openBracket, rest)
  | ']' :: rest => some (.closeBracket, rest)
  | '\x27' :: rest => text? '\x27' false rest
  | '\x22' :: rest => text? '\x22' true rest
  | cs =>
    let blank := cs.takeWhile fun c => c == ' ' || c == '\t'
    if !blank.isEmpty then some (.blank blank, cs.drop blank.length)
    else
      let word := cs.takeWhile isWordChar
      if word.isEmpty then none else some (.word word, cs.drop word.length)

/-- The tokens of a text, as many as the fuel allows. -/
def scan? : Nat → List Char → Option (List Token)
  | _, [] => some []
  | 0, _ => none
  | fuel + 1, cs => do
    let (t, rest) ← token? cs
    (scan? fuel rest).map (t :: ·)

def tokens? (s : String) : Option (List Token) :=
  let cs := foldLines s.toList
  let cs := if cs.head? = some '\ufeff' then cs.drop 1 else cs
  scan? cs.length cs

end Switchboard.Toml
