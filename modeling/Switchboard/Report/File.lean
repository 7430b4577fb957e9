import Switchboard.Files
import Switchboard.Report

/-!
# Report files

A report is written beside its file first and then put in its place, so that a reader never sees a
part of one.
-/

namespace Switchboard

namespace Files

/-- A name without its last extension. A leading period begins no extension. -/
def stem (name : String) : String :=
  let cs := name.toList.reverse
  let before := (cs.dropWhile (· != '.')).drop 1
  if name = ".." ∨ before.isEmpty then name else String.ofList before.reverse

/-- Where a report is written before it takes its place. -/
def beside (p : List String) : List String :=
  match p.getLast? with
  | some name => p.dropLast ++ [stem name ++ ".json.tmp"]
  | none => p

end Files

namespace Report

/-- Why a report was not read or not written. -/
inductive FileError where
  /-- There is no file to read. -/
  | read
  /-- The file holds no report. -/
  | parse
  /-- The folder could not be made. -/
  | create
  | write
  | replace
  deriving DecidableEq, Repr

/-- The wording of a file error, without what the system says. -/
def FileError.message : FileError → String
  | .read => "Failed to read"
  | .parse => "Failed to parse"
  | .create => "Failed to create"
  | .write => "Failed to write"
  | .replace => "Failed to replace"

def readFrom (f : Files) (p : List String) : Except FileError Report :=
  match f.read? p with
  | none => .error .read
  | some s =>
    match parse? s with
    | none => .error .parse
    | some r => .ok r

/-- Writes a report to a path. What was done before a failure stays done. -/
def writeTo (r : Report) (f : Files) (p : List String) : Except FileError Unit × Files :=
  match f.makeFolder? p.dropLast with
  | none => (.error .create, f)
  | some f =>
    match f.write? (Files.beside p) r.text with
    | none => (.error .write, f)
    | some f =>
      match f.move? (Files.beside p) p with
      | none => (.error .replace, f)
      | some f => (.ok (), f)

end Report

end Switchboard
