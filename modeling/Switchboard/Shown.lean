import Switchboard.Gpio.Board
import Switchboard.Interlock
import Switchboard.Report
import Switchboard.Store.Conflict
import Switchboard.Tuning
import Switchboard.Value

/-!
# Shown values

The tables in which configurations, states and records are shown to whoever asks for them. A duty is
shown by the text of its number, a time by its text, and what is missing as nothing.
-/

namespace Switchboard

namespace Value

def duty (d : Single) : Value := .text d.text

def time (t : Timestamp) : Value := .text t.text

def word (w : UInt32) : Value := .nat w.toNat

end Value

def ErrorKind.name : ErrorKind → String
  | .notInitialized => "NotInitialized"
  | .notFound => "NotFound"
  | .ioError => "IoError"
  | .busy => "Busy"
  | .timeout => "Timeout"
  | .noMemory => "NoMemory"
  | .invalidParam => "InvalidParam"

def Output.Config.shown (c : Output.Config) : Value :=
  .table [
    ("id", .int c.id), ("name", .text c.name), ("type", .text c.kind.label), ("pin", .word c.pin),
    ("chip", .text c.chip), ("active_low", .bool c.activeLow), ("pwm_frequency_hz", .word c.frequency),
    ("pwm_min_duty", .duty c.minDuty), ("pwm_max_duty", .duty c.maxDuty),
    ("min_on_time_ms", .word c.minOn), ("min_off_time_ms", .word c.minOff),
    ("max_on_time_sec", .word c.maxOn), ("pulse_ms", .word c.pulse),
    ("interlock_group", .ofOption .word c.group)]

def Output.Status.shown (s : Output.Status) : Value :=
  .table [
    ("state", .text s.state.label), ("pwm_duty", .duty s.duty),
    ("last_change", .ofOption .time s.lastChange), ("last_on", .ofOption .time s.lastOn),
    ("last_off", .ofOption .time s.lastOff), ("total_on_time_ms", .nat s.total.toNat),
    ("cycle_count", .word s.cycles), ("lockout", .bool s.lockout),
    ("lockout_reason", .ofOption (fun r => .text r.name) s.reason)]

def Snapshot.shown (s : Snapshot) : Value :=
  .table [
    ("id", .int s.id), ("name", .text s.name), ("state", .text s.state), ("pwm_duty", .duty s.duty),
    ("on_time_ms", .nat s.onTime.toNat), ("cycle_count", .word s.cycles), ("lockout", .bool s.lockout),
    ("lockout_reason", .ofOption .text s.reason)]

def Store.Row.shown (r : Store.Row) : Value :=
  .table [
    ("actuator_id", .int r.id), ("is_on", .bool r.isOn), ("pwm_duty", .nat r.duty.toNat),
    ("total_on_time_ms", .nat r.total.toNat), ("cycle_count", .word r.cycles),
    ("updated_at", .time r.updated)]

def Store.Record.shown (r : Store.Record) : Value :=
  .table [
    ("id", .int r.id), ("slot", .nat r.slot.toNat), ("subslot", .nat r.subslot.toNat),
    ("name", .text r.name), ("type", .text r.kind.label), ("gpio_pin", .word r.pin),
    ("gpio_chip", .text r.chip), ("active_low", .bool r.activeLow),
    ("safe_state", .text r.safeState.label), ("min_on_time_ms", .word r.minOn),
    ("max_on_time_ms", .word r.maxOn), ("pwm_frequency_hz", .word r.frequency),
    ("enabled", .bool r.enabled)]

def Tuning.shown (t : Tuning) : Value :=
  .table [
    ("id", .int t.id), ("interlock_group", .ofOption .word t.group),
    ("min_off_time_ms", .ofOption .word t.minOff), ("pwm_min_duty", .ofOption .duty t.minDuty),
    ("pwm_max_duty", .ofOption .duty t.maxDuty), ("pulse_ms", .ofOption .word t.pulse)]

def Store.Conflict.shown (c : Store.Conflict) : Value :=
  .table [("kind", .text c.owner.text), ("id", .int c.id), ("name", .text c.name)]

def Interlock.Token.shown (t : Interlock.Token) : Value :=
  .table [("id", .int t.id), ("name", .text t.name)]

def Gpio.Edge.shown (e : Gpio.Edge) : Value :=
  .table [("edge", .text e.text), ("level", .bool e.level)]

def Gpio.PinState.shown (p : Gpio.PinState) : Value :=
  .table [
    ("mode", .text p.mode.text), ("pull", .text p.pull.text), ("edge", .text p.edge.text),
    ("callback", .bool p.listener), ("debug", .text p.text), ("calls", .nat 0)]

end Switchboard
