import Switchboard.Json.Reader
import Switchboard.Json.Printer
import Switchboard.Output.Driver
import Switchboard.Value.Decode

/-!
# Status reports

A report is a moment and a line for each output, and its text is JSON. The age of a report is judged
against a greatest age.
-/

namespace Switchboard

structure Snapshot where
  id : Int
  name : String
  state : String
  duty : Single
  /-- How long it was on in all, in milliseconds. -/
  onTime : UInt64
  cycles : UInt32
  lockout : Bool
  /-- What kept it off last, in words. -/
  reason : Option String
  deriving DecidableEq, Repr

namespace Snapshot

def ofStatus (id : Int) (name : String) (s : Output.Status) : Snapshot where
  id
  name
  state := s.state.label
  duty := s.duty
  onTime := s.total
  cycles := s.cycles
  lockout := s.lockout
  reason := s.reason.map Output.Lockout.text

def ofDriver (d : Output.Driver) : Snapshot :=
  ofStatus d.config.id d.name d.status

/-- A line as a value, its fields in their order. -/
def toValue (s : Snapshot) : Value :=
  .table [
    ("id", .int s.id), ("name", .text s.name), ("state", .text s.state), ("pwm_duty", .real s.duty),
    ("on_time_ms", .nat s.onTime.toNat), ("cycle_count", .nat s.cycles.toNat),
    ("lockout", .bool s.lockout), ("lockout_reason", .ofOption .text s.reason)]

/-- The names of the fields, in their order. -/
def fieldNames : List String :=
  ["id", "name", "state", "pwm_duty", "on_time_ms", "cycle_count", "lockout", "lockout_reason"]

/-- Reads a line. Only in a table may the reason be missing. -/
def ofValue? (v : Value) : Option Snapshot := do
  let fs ← v.fields? fieldNames 8
  some {
    id := ← fs.required "id" Value.int64?
    name := ← fs.required "name" Value.text?
    state := ← fs.required "state" Value.text?
    duty := ← fs.required "pwm_duty" Value.single?
    onTime := ← fs.required "on_time_ms" Value.long?
    cycles := ← fs.required "cycle_count" Value.word?
    lockout := ← fs.required "lockout" Value.bool?
    reason := ← fs.optional "lockout_reason" Value.text? }

end Snapshot

/-- The outputs at one moment. -/
structure Report where
  timestamp : Timestamp
  outputs : List Snapshot
  deriving DecidableEq, Repr

namespace Report

def collect (timestamp : Timestamp) (drivers : List Output.Driver) : Report :=
  ⟨timestamp, drivers.map .ofDriver⟩

def toValue (r : Report) : Value :=
  .table [
    ("timestamp", .text r.timestamp.text), ("outputs", .list (r.outputs.map Snapshot.toValue))]

def ofValue? (v : Value) : Option Report := do
  let fs ← v.fields? ["timestamp", "outputs"] 2
  some {
    timestamp := ← fs.required "timestamp" fun v => v.text?.bind Timestamp.parse?
    outputs := ← fs.required "outputs" (Value.list? Snapshot.ofValue?) }

/-- The text of a report, as it is kept in a file. -/
def text (r : Report) : String :=
  Json.pretty r.toValue

def line (r : Report) : String :=
  Json.compact r.toValue

def parse? (s : String) : Option Report :=
  (Json.read? s).bind ofValue?

/-! ## Age -/

/-- How old a report is, against a greatest age. -/
inductive AgeClass where
  | good
  /-- Above three quarters of the greatest age. -/
  | gettingOld
  | tooOld
  deriving DecidableEq, Repr

def AgeClass.text : AgeClass → String
  | good => "Good"
  | gettingOld => "GettingOld"
  | tooOld => "TooOld"

/-- Whole seconds from one moment to another, toward zero. -/
def ageSeconds (timestamp now : Timestamp) : Int :=
  (timestamp.nanosTo now).tdiv Timestamp.perSecond

/-- The age above which a warning is due: three times a quarter of the greatest age. -/
def warnAge (greatest : Int) : Int :=
  greatest.tdiv 4 * 3

def ageClass (age greatest : Int) : AgeClass :=
  if greatest < age then .tooOld else if warnAge greatest < age then .gettingOld else .good

def ageText (age greatest : Int) : String :=
  (ageClass age greatest).text ++ ": " ++ toString age ++ "s old, (max " ++ toString greatest ++ "s)"

end Report

end Switchboard
