import Switchboard.Toml.Number

/-!
# TOML documents

A document is a list of sections, each a header and entries. The sections make one table: those whose
headers begin alike are one entry, which is a list if the first of them is an item of a list. A table
has at most one section of its own, and an item of a list has only the one that begins it. A key that
is given twice is kept twice.
-/

namespace Switchboard.Toml

/-- An entry while its table is put together: only what dotted keys began may be added to. -/
inductive Node where
  | leaf (v : Value)
  /-- A table that dotted keys have begun. -/
  | dotted (es : List (String × Node))

mutual

def Node.value : Node → Value
  | .leaf v => v
  | .dotted es => .table (Node.values es)

def Node.values : List (String × Node) → List (String × Value)
  | [] => []
  | (k, n) :: rest => (k, n.value) :: Node.values rest

end

/-- The entries with a value added under a dotted key. -/
def addDotted? : List String → Value → List (String × Node) → Option (List (String × Node))
  | [], _, _ => none
  | [k], v, es => some (es ++ [(k, .leaf v)])
  | k :: path, v, es =>
    match es.find? (·.1 == k) with
    | none => (addDotted? path v []).map fun inner => es ++ [(k, .dotted inner)]
    | some (_, .leaf _) => none
    | some (_, .dotted inner) =>
      (addDotted? path v inner).map fun inner => replaceFirst k inner es
where
  /-- The entries with the first one of a key replaced. -/
  replaceFirst (k : String) (inner : List (String × Node)) :
      List (String × Node) → List (String × Node)
    | [] => []
    | e :: rest => if e.1 = k then (k, .dotted inner) :: rest else e :: replaceFirst k inner rest

def skipBlank : List Token → List Token
  | .blank _ :: rest => rest
  | ts => ts

/-- The tokens without blanks, line ends and comments in front. A comment ends with its line. -/
def skipLines : List Token → Option (List Token)
  | .blank _ :: rest | .newline :: rest => skipLines rest
  | .comment :: .newline :: rest => skipLines rest
  | [.comment] => some []
  | .comment :: _ => none
  | ts => some ts

/-- The end of a line, with or without a comment. -/
def lineEnd? (ts : List Token) : Option (List Token) :=
  match skipBlank ts with
  | [] | [.comment] => some []
  | .newline :: rest | .comment :: .newline :: rest => some rest
  | _ => none

def keyPart? : List Token → Option (String × List Token)
  | .word s :: rest => some (String.ofList s, rest)
  | .text s false :: rest => some (s, rest)
  | _ => none

/-- A key of one or more parts, with blanks around the periods and after the last. -/
def key? : Nat → List Token → Option (List String × List Token)
  | 0, _ => none
  | fuel + 1, ts => do
    let (k, ts) ← keyPart? ts
    match skipBlank ts with
    | .period :: rest =>
      (key? fuel (skipBlank rest)).map fun (path, ts) => (k :: path, ts)
    | ts => some ([k], ts)

mutual

/-- A value. The fuel bounds the nesting and the number of items. -/
def value? : Nat → List Token → Option (Value × List Token)
  | 0, _ => none
  | fuel + 1, ts =>
    match ts with
    | .text s _ :: rest => some (.text s, rest)
    | .word s :: rest =>
      if s = "true".toList then some (.bool true, rest)
      else if s = "false".toList then some (.bool false, rest)
      else if s = "inf".toList ∨ s = "nan".toList ∨ s.head?.any (fun c => c == '-' || c.isDigit) then
        numberOrTime? s rest
      else none
    | .plus :: .word s :: rest => number? s rest
    | .openBrace :: rest =>
      match skipBlank rest with
      | .closeBrace :: rest => some (.table [], rest)
      | rest => inline? fuel rest []
    | .openBracket :: rest => items? fuel rest []
    | _ => none

def inline? : Nat → List Token → List (String × Node) → Option (Value × List Token)
  | 0, _, _ => none
  | fuel + 1, ts, es =>
    match key? ts.length ts with
    | some (path, .equals :: rest) =>
      match value? fuel (skipBlank rest) with
      | none => none
      | some (v, rest) =>
        match addDotted? path v es with
        | none => none
        | some es =>
          match skipBlank rest with
          | .closeBrace :: rest => some (.table (Node.values es), rest)
          | .comma :: rest => inline? fuel (skipBlank rest) es
          | _ => none
    | _ => none

/-- The items of a list in brackets, which may go over several lines and end in a comma. -/
def items? : Nat → List Token → List Value → Option (Value × List Token)
  | 0, _, _ => none
  | fuel + 1, ts, acc =>
    match skipLines ts with
    | none => none
    | some (.closeBracket :: rest) => some (.list acc.reverse, rest)
    | some ts =>
      match value? fuel ts with
      | none => none
      | some (v, rest) =>
        match skipLines rest with
        | some (.comma :: rest) => items? fuel rest (v :: acc)
        | some (.closeBracket :: rest) => some (.list (v :: acc).reverse, rest)
        | _ => none

end

structure Section where
  header : List String
  /-- The header begins an item of a list. -/
  item : Bool
  entries : List (String × Value)

def header? (ts : List Token) : Option (List String × Bool × List Token) := do
  let (item, ts) : Bool × List Token := match ts with
    | .openBracket :: rest => (true, rest)
    | ts => (false, ts)
  let (path, ts) ← key? ts.length (skipBlank ts)
  let ts ← match item, ts with
    | false, .closeBracket :: rest => some rest
    | true, .closeBracket :: .closeBracket :: rest => some rest
    | _, _ => none
  let ts ← lineEnd? ts
  some (path, item, ts)

/-- The sections from a line on: `header` and `es` are those of the section that the line is in. -/
def sections? : Nat → List Token → List String → Bool → List (String × Node) → Option (List Section)
  | 0, _, _, _, _ => none
  | fuel + 1, ts, header, item, es =>
    match skipLines ts with
    | none => none
    | some [] => some [⟨header, item, Node.values es⟩]
    | some (.openBracket :: rest) =>
      match header? rest with
      | none => none
      | some (path, item', rest) =>
        (sections? fuel rest path item' []).map (⟨header, item, Node.values es⟩ :: ·)
    | some ts =>
      match key? ts.length ts with
      | some (path, .equals :: rest) =>
        match value? ts.length (skipBlank rest) with
        | none => none
        | some (v, rest) =>
          match lineEnd? rest, addDotted? path v es with
          | some rest, some es => sections? fuel rest header item es
          | _, _ => none
      | _ => none

/-- A section seen from one part further down its header. -/
def Section.below (k : String) (s : Section) : Option Section :=
  match s.header with
  | k' :: header => if k' = k then some { s with header } else none
  | [] => none

/-- The items of a list: each begins with a section of its own and has those that follow. -/
def splitItems : List Section → List (Section × List Section)
  | [] => []
  | s :: rest =>
    let items := splitItems (rest.dropWhile fun s => !(s.header.isEmpty && s.item))
    (s, rest.takeWhile fun s => !(s.header.isEmpty && s.item)) :: items
  termination_by ss => ss.length
  decreasing_by
    simp only [List.length_cons]
    exact Nat.lt_succ_of_le (List.dropWhile_sublist _).length_le

/-- The entries that sections make, which have a section of their own where `own` allows it. The fuel
bounds the length of the headers. -/
def entries? : Nat → Bool → List Section → Option (List (String × Value))
  | 0, _, _ => none
  | fuel + 1, own, ss =>
    let mine := ss.filter (·.header.isEmpty)
    if (if own then 1 else 0) < mine.length ∨ mine.any (·.item) then none
    else do
      let keys := (ss.filterMap (·.header.head?)).eraseDups
      let groups ← keys.mapM fun k => do
        let below := ss.filterMap (·.below k)
        let v ←
          if below.head?.any fun s => s.header.isEmpty && s.item then do
            let items ← (splitItems below).mapM fun (i : Section × List Section) => do
              let es ← entries? fuel false i.2
              some (Value.table (i.1.entries ++ es))
            some (Value.list items)
          else (entries? fuel true below).map Value.table
        some (k, v)
      some (mine.flatMap (·.entries) ++ groups)

def read? (s : String) : Option Value := do
  let ts ← tokens? s
  let ss ← sections? (ts.length + 1) ts [] false []
  let depth := (ss.map (·.header.length)).foldl max 0
  (entries? (depth + 1) true ss).map Value.table

end Switchboard.Toml
