/-!
# Files

A tree of folders and files: what is at a path, and what changes when a folder is made, a file written
or moved. An operation that the tree does not allow changes nothing.
-/

namespace Switchboard

/-- A tree of folders and files. A path is the list of its names; the empty path is the root. -/
structure Files where
  folders : List (List String)
  contents : List (List String × String)
  deriving DecidableEq, Repr

namespace Files

def empty : Files := ⟨[], []⟩

/-- The path that a text with slashes denotes. -/
def path (s : String) : List String :=
  ((s.splitOn "/").filter fun name => !name.isEmpty && name != ".")

/-- The path that a text denotes below a folder. A text with a slash in front starts at the root. -/
def below (p : List String) (s : String) : List String :=
  if s.toList.head? == some '/' then path s else p ++ path s

def isFolder (f : Files) (p : List String) : Bool :=
  p.isEmpty || f.folders.contains p

def isFile (f : Files) (p : List String) : Bool :=
  f.contents.any (·.1 == p)

def holds (f : Files) (p : List String) : Bool :=
  f.isFile p || f.isFolder p

/-- The paths from the first name of a path down to the path itself. -/
def above (p : List String) : List (List String) :=
  (List.range p.length).map fun n => p.take (n + 1)

/-- Makes a folder at a path and all folders above it, unless a file is in the way. -/
def makeFolder? (f : Files) (p : List String) : Option Files :=
  (above p).foldl (fun f? p =>
    f?.bind fun f =>
      if f.isFile p then none
      else if f.isFolder p then some f
      else some { f with folders := f.folders ++ [p] }) (some f)

def remove (f : Files) (p : List String) : Files :=
  { f with contents := f.contents.filter fun e => e.1 != p }

/-- Writes a file in a folder that exists, unless a folder is in its place. -/
def write? (f : Files) (p : List String) (content : String) : Option Files :=
  if f.isFolder p || !f.isFolder p.dropLast then none
  else
    let f := f.remove p
    some { f with contents := f.contents ++ [(p, content)] }

def read? (f : Files) (p : List String) : Option String :=
  f.contents.lookup p

/-- Puts a file in another place, over a file that is there, unless a folder is. -/
def move? (f : Files) (source target : List String) : Option Files :=
  match f.read? source with
  | none => none
  | some content => if f.isFolder target then none else (f.remove source).write? target content

/-- All paths in order, those of folders with a slash at the end. -/
def listing (f : Files) : List String :=
  let folders := f.folders.map fun p => "/".intercalate p ++ "/"
  let files := f.contents.map fun e => "/".intercalate e.1
  (folders ++ files).mergeSort (· ≤ ·)

end Files

end Switchboard
