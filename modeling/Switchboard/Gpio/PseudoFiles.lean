import Switchboard.Files
import Switchboard.Gpio.Access
import Switchboard.Number.Integer
import Switchboard.Text.Blank

/-!
# Pseudo-files

A backend over files that stand for lines. A line has a number of its own on the system: the number of
the chip's first line and the pin. No line of the system is there to be accessed, so each access fails
with what the system reports; the checks that come before an access are what can be seen.
-/

namespace Switchboard.Gpio

/-- What can be wrong with an access to a pseudo-file. -/
inductive FileFault where
  | io (text : String)
  /-- A file holds what it should not. -/
  | unexpected (text : String)
  | invalidPath (text : String)
  | unsupported (text : String)
  deriving DecidableEq, Repr

/-- A fault of a file as an error of a pin. -/
def FileFault.error : FileFault → Error
  | .io text | .unexpected text => .device (.reported text)
  | .invalidPath text => .badPath text
  | .unsupported text => .unsupported text

/-- The backend over pseudo-files. -/
structure PseudoFiles where
  chip : String
  /-- The number of the chip's first line, if it is not to be looked up. -/
  base : Option UInt64
  initialised : Bool
  /-- The number of the chip's first line, once it is known. -/
  firstLine : UInt64
  /-- The lines that were taken and their directions. -/
  lines : Table Pin Mode

namespace PseudoFiles

/-- Where the files of the lines are. -/
def root : List String := ["sys", "class", "gpio"]

/-- The text of the path where the files of the lines are. -/
def rootText : String := "/" ++ "/".intercalate root

/-- Why the number of a chip's first line is not known. -/
inductive BaseError where
  | unreadable
  | malformed (cause : IntegerError)
  deriving DecidableEq, Repr

/-- The wording of what is wrong, without the path and what the system says. -/
def BaseError.message : BaseError → String
  | .unreadable => ""
  | .malformed cause => cause.message

/-- The number of the first line of a chip: zero if the chip's folder does not tell. -/
def readBase (f : Files) (root : List String) (chip : String) : Except BaseError UInt64 :=
  let p := Files.below root chip ++ ["base"]
  if !f.holds p then .ok 0
  else
    match f.read? p with
    | none => .error .unreadable
    | some s =>
      match readUnsigned (2 ^ 64 - 1) (Text.trim s.toList) with
      | .ok n => .ok n.toUInt64
      | .error e => .error (.malformed e)

def new (chip : String) (base : Option UInt32) : PseudoFiles :=
  ⟨chip, base.map UInt32.toUInt64, false, 0, .empty⟩

def init (p : PseudoFiles) (system : Files) : Except Error PseudoFiles :=
  if p.initialised then .ok p
  else if !system.holds (root ++ ["export"]) then
    .error (.unsupported (rootText ++ "/export is missing"))
  else
    match p.base with
    | some base => .ok { p with initialised := true, firstLine := base }
    | none =>
      match readBase system root p.chip with
      | .ok base => .ok { p with initialised := true, firstLine := base }
      | .error e => .error (.device (.reported e.message))

def shutdown (p : PseudoFiles) : PseudoFiles :=
  { p with initialised := false, lines := .empty }

/-- Takes a line. An earlier one of that pin is given up first, and lost when the new one fails. -/
def configure (p : PseudoFiles) (pin : Pin) : Except Error Unit × PseudoFiles :=
  if p.initialised then (.error .noLine, { p with lines := p.lines.erase pin })
  else (.error .notInitialized, p)

def release (p : PseudoFiles) (pin : Pin) : Except Error PseudoFiles :=
  if p.lines.contains pin then .ok { p with lines := p.lines.erase pin } else .error (.notFound pin)

def read (p : PseudoFiles) (pin : Pin) : Except Error Bool :=
  if p.lines.contains pin then .error .noLine else .error (.notFound pin)

def write (p : PseudoFiles) (pin : Pin) : Except Error Unit :=
  match p.lines.get? pin with
  | none => .error (.notFound pin)
  | some mode => if mode.isOutput then .error .noLine else .error (.notOutput pin)

def setEdge (p : PseudoFiles) (pin : Pin) : Except Error Unit :=
  match p.lines.get? pin with
  | none => .error (.notFound pin)
  | some mode => if mode.isOutput then .error (.notInput pin) else .error .noLine

/-- Waits for an edge. None is watched, since no access to watch one succeeds. -/
def waitEdge (p : PseudoFiles) (pin : Pin) : Except Error Edge :=
  if p.lines.contains pin then .error (.notArmed pin) else .error (.notFound pin)

/-- The taken pins and the numbers of their lines on the system, in order. -/
def numbers (p : PseudoFiles) : List (Pin × UInt64) :=
  p.lines.keys.map fun pin => (pin, p.firstLine + pin.toUInt64)

def access (p : PseudoFiles) (system : Files) : Access → Answer × PseudoFiles
  | .init => Answer.ofStep p (p.init system)
  | .shutdown => (.ok .done, p.shutdown)
  | .configure pin _ _ => (p.configure pin).map Answer.ofUnit id
  | .release pin => Answer.ofStep p (p.release pin)
  | .read pin => ((p.read pin).map .level, p)
  | .write pin _ => (Answer.ofUnit (p.write pin), p)
  | .setEdge pin _ => (Answer.ofUnit (p.setEdge pin), p)
  | .waitEdge pin => ((p.waitEdge pin).map .edge, p)

end PseudoFiles

end Switchboard.Gpio
