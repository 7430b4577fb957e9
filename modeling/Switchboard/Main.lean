import Std.Time.DateTime.Timestamp
import Switchboard.Program

/-!
# The command line

The first argument names the settings; the log filter is in the folder that the program starts in. The
outputs are on the bench, and a store lasts as long as the program. It does one round, tells its lines,
and stops at a line or at the end of its input; the line `hangup` makes it read its filter again first.
-/

namespace Switchboard.CommandLine

/-- The content of a file, if it can be read. -/
def content? (name : String) : IO (Option String) :=
  try
    let s ← IO.FS.readFile name
    pure (some s)
  catch _ => pure none

/-- Tells lines: complaints apart, entries of the log with the others. -/
def tellLines (lines : List Line) : IO Unit :=
  lines.forM fun
    | .told s => IO.println s
    | .complaint s => IO.eprintln s
    | .logged e => IO.println e.line

def wallTime : IO Timestamp := do
  let now ← Std.Time.Timestamp.now
  pure (.ofNanos now.toNanosecondsSinceUnixEpoch.val)

/-- Puts the report where the settings want it, with the folders above it. -/
def putReport (p : Program) : IO Unit :=
  match p.settings.control.statusFile with
  | none => pure ()
  | some name =>
    match p.place.files.read? (Files.path name) with
    | none => pure ()
    | some s => do
      let folders := (name.splitOn "/").dropLast
      if !folders.isEmpty then IO.FS.createDirAll ("/".intercalate folders)
      IO.FS.writeFile name s

end Switchboard.CommandLine

open Switchboard CommandLine in
def main (args : List String) : IO UInt32 := do
  let settings := args.head?.getD Program.settingsFile
  let names := [settings, Log.Filter.fileName]
  let contents ← names.filterMapM fun name => do
    pure ((← content? name).map fun s => (Files.path name, s))
  match Program.start ⟨⟨[], contents⟩, []⟩ (some settings) (← wallTime) with
  | .error lines =>
    tellLines lines
    pure 1
  | .ok p =>
    let p := p.save.round
    tellLines p.lines
    putReport p
    let line ← (← IO.getStdin).getLine
    let s := if line.trimAscii.toString = "hangup" then Signal.hangup else Signal.terminate
    let filter ← content? Log.Filter.fileName
    let files := match filter with
      | some s => (p.place.files.write? [Log.Filter.fileName] s).getD p.place.files
      | none => p.place.files.remove [Log.Filter.fileName]
    let p := { p with place := { p.place with files }, lines := [] }
    tellLines ((p.receive s).stop).lines
    pure 0
