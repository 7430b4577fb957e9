import Switchboard.Log.Directive

/-!
# Log filters

A filter decides which entries of the log are shown. It is read from a line of directives and keeps them
most specific first, so that the first one that fits a channel decides. Directives that hold only in a
span never fit an entry, which is in no span; they are kept for the text of the filter.
-/

namespace Switchboard.Log

/-- A directive that holds everywhere; of fields it asks only that they are there. -/
structure Rule where
  /-- What the paths of the channels begin with; none for all channels. -/
  target : Option String
  fields : List String
  limit : Limit
  deriving DecidableEq, Repr

namespace Rule

def text (r : Rule) : String :=
  Directive.layout r.target
    (if r.fields.isEmpty then none else some (Directive.bracketed "" r.fields)) r.limit

def known : List String :=
  ["message", "log.target", "log.module_path", "log.file", "log.line"]

def fits (r : Rule) (channel : Channel) : Bool :=
  (r.target.all fun t => t.toList.isPrefixOf channel.path.toList) && r.fields.all known.contains

end Rule

/-! ## Order -/

/-- How long a target is; none is shorter than any. -/
def targetLength (t : Option String) : Nat :=
  match t with
  | some t => t.utf8ByteSize + 1
  | none => 0

/-- A text that may be missing, which comes before every text. -/
def compareTexts : Option String → Option String → Ordering
  | none, none => .eq
  | none, some _ => .lt
  | some _, none => .gt
  | some a, some b => compare a b

/-- The texts one after another; of two lists with the same beginning the shorter comes first. -/
def compareLists : List String → List String → Ordering
  | [], [] => .eq
  | [], _ :: _ => .lt
  | _ :: _, [] => .gt
  | a :: as, b :: bs => (compare a b).then (compareLists as bs)

/-- A criterion without a value comes first, then the names and the values decide. -/
def Criterion.compareTo (a b : Criterion) : Ordering :=
  (compare a.value.isSome.toNat b.value.isSome.toNat).then
    ((compare a.name b.name).then (compareTexts a.value b.value))

def compareCriteria : List Criterion → List Criterion → Ordering
  | [], [] => .eq
  | [], _ :: _ => .lt
  | _ :: _, [] => .gt
  | a :: as, b :: bs => (a.compareTo b).then (compareCriteria as bs)

/-- Greater for the more specific rule: the longer target, more fields, and then the texts. -/
def Rule.compareTo (a b : Rule) : Ordering :=
  (compare (targetLength a.target) (targetLength b.target)).then
    ((compare a.fields.length b.fields.length).then
      ((compareTexts a.target b.target).then (compareLists a.fields b.fields)))

/-- Greater for the more specific directive: the longer target, a span, more fields, and then the
texts. -/
def Directive.compareTo (a b : Directive) : Ordering :=
  (compare (targetLength a.target) (targetLength b.target)).then
    ((compare a.span.isSome.toNat b.span.isSome.toNat).then
      ((compare a.fields.length b.fields.length).then
        ((compareTexts a.target b.target).then
          ((compareTexts a.span b.span).then (compareCriteria a.fields b.fields)))))

/-- Puts an element in its place among others, greatest first, over one that is equal. -/
def settle {α : Type} (order : α → α → Ordering) (a : α) : List α → List α
  | [] => [a]
  | b :: rest =>
    match order a b with
    | .gt => a :: b :: rest
    | .eq => a :: rest
    | .lt => b :: settle order a rest

/-- The elements greatest first; of equal ones the last. -/
def settled {α : Type} (order : α → α → Ordering) (l : List α) : List α :=
  l.foldl (fun settledOnes a => settle order a settledOnes) []

/-! ## Filters -/

/-- The directive holds only in a span or where it finds something of a field. -/
def Directive.isConfined (d : Directive) : Bool :=
  d.span.isSome || !d.fields.isEmpty

/-- The rule of a directive that names no span and no value. -/
def Directive.rule? (d : Directive) : Option Rule :=
  if d.span.isSome || d.fields.any (·.value.isSome) then none
  else some ⟨d.target, d.fields.map (·.name), d.limit⟩

structure Filter where
  rules : List Rule
  /-- The directives that hold only in a span or by a field, most specific first. -/
  confined : List Directive
  deriving DecidableEq, Repr

namespace Filter

/-- The filter of directives; without any it lets everything but the greatest detail through. -/
def ofDirectives (ds : List Directive) : Filter :=
  let confined := ds.filter Directive.isConfined
  let plain := ds.filter fun d => !d.isConfined
  let rules := plain.filterMap Directive.rule? ++ confined.filterMap Directive.rule?
  if rules.isEmpty && confined.isEmpty then ⟨[⟨none, [], some .debug⟩], []⟩
  else ⟨settled Rule.compareTo rules, settled Directive.compareTo confined⟩

/-- The filter where nothing else is said. -/
def default : Filter := ofDirectives []

/-- Reads a line of directives with commas between them. -/
def parse (line : String) : Except Directive.Fault Filter :=
  (((line.splitOn ",").filter fun s => !s.isEmpty).mapM fun s => Directive.read s.toList).map
    ofDirectives

def text (f : Filter) : String :=
  ",".intercalate (f.rules.map Rule.text ++ f.confined.map Directive.text)

def shows (f : Filter) (e : Entry) : Bool :=
  ((f.rules.find? fun r => r.fits e.channel).map fun r => r.limit.admits e.level).getD false

/-! ## Files -/

def fileName : String := "logging.env"

inductive ReadError where
  | unreadable
  | empty
  | malformed (fault : Directive.Fault)
  deriving DecidableEq, Repr

/-- The wording of an error, without what the system says. -/
def ReadError.message : ReadError → String
  | .unreadable => "Failed to read file " ++ fileName
  | .empty => fileName ++ " is empty"
  | .malformed fault => "Failed to parse env filter: " ++ fault.message

/-- The first line of a text, without its end. -/
def firstLine? (cs : List Char) : Option (List Char) :=
  let line := cs.takeWhile (· != '\n')
  if cs.isEmpty then none
  else if line.length < cs.length ∧ line.getLast? = some '\r' then some line.dropLast
  else some line

/-- The filter in the first line of a file. -/
def ofFile (content : Option String) : Except ReadError Filter :=
  match content with
  | none => .error .unreadable
  | some s =>
    match firstLine? s.toList with
    | none => .error .empty
    | some line =>
      match parse (String.ofList line) with
      | .error fault => .error (.malformed fault)
      | .ok f => .ok f

end Filter

end Switchboard.Log
