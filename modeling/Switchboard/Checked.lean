import Switchboard.Rig

/-!
# The rig where additions are checked

A build can check its additions. Where the total of the time on has no room for what is added to it, the
operation then panics, in the middle: its write has gone through and its claim is free, but the status says on
still, and nothing is counted. Whoever asked for the operation gets no answer. The end of a pulse that panics
stops nothing else; whoever waits for the pulse finds out. Everything else is as in `Rig.step`.
-/

namespace Switchboard

open Output (Wreck)

/-- An operation that panicked. -/
structure Panic where
  /-- The serial of its driver. -/
  driver : Nat
  /-- The serial of the pulse that it was the end of, if it was one. -/
  pulse : Option Nat
  deriving DecidableEq, Repr

/-- The pulse of a driver with a number, if it waits and is over. -/
def Rig.over? (r : Rig) (serial number : Nat) : Option Output.Pulse :=
  (r.drivers.get? serial).bind fun d =>
    d.pulse.filter fun q => q.number == number && !q.cancelled && q.due ≤ r.timer

/-- A rig where additions are checked. -/
structure Checked where
  rig : Rig
  /-- What has panicked, the last first. -/
  panics : List Panic

namespace Checked

def new (plant : Plant) : Checked := ⟨.new plant, []⟩

/-- After an operation of a driver that panicked. -/
def leave (c : Checked) (serial : Nat) (pulse : Option Nat) (w : Wreck) : Checked where
  rig := { c.rig with plant := w.plant, drivers := c.rig.drivers.insert serial w.driver }
  panics := ⟨serial, pulse⟩ :: c.panics

def tell (c : Checked) (serial : Nat) (command : Command) : Checked × Option Reply :=
  match (c.rig.drivers.get? serial).bind fun d => (Rig.obey d c.rig.plant command).wreck with
  | some w => (c.leave serial none w, none)
  | none =>
    let (rig, reply) := c.rig.tell serial command
    ({ c with rig }, some reply)

def finish (c : Checked) (serial : Nat) (q : Output.Pulse) : Checked :=
  match (c.rig.drivers.get? serial).bind fun d => (d.finishPulse c.rig.plant q.number).wreck with
  | some w => c.leave serial (some q.serial) w
  | none => { c with rig := c.rig.finish serial q }

def ring (c : Checked) (serial number : Nat) : Checked :=
  match c.rig.over? serial number with
  | some q => c.finish serial q
  | none => { c with rig := c.rig.ring serial number }

def advance (c : Checked) (millis : Int) : Checked :=
  let rig := c.rig.elapse millis
  rig.due.foldl (fun c (serial, q) => c.finish serial q) { c with rig }

def awaitPulse (c : Checked) (pulse : Nat) : Checked × Option Reply :=
  let (rig, reply) := c.rig.awaitPulse pulse
  let lost := c.rig.started.contains pulse && c.panics.any (·.pulse == some pulse)
  ({ c with rig }, if lost then none else some reply)

/-- What an event does and answers. There is no answer where an operation panicked that was asked for or waited
for. -/
def step (c : Checked) : Event → Checked × Option Reply
  | .command d command => c.tell d command
  | .awaitPulse q => c.awaitPulse q
  | .advance millis => (c.advance millis, some .done)
  | .ring d number => (c.ring d number, some .done)
  | e =>
    let (rig, reply) := c.rig.step e
    ({ c with rig }, some reply)

def run (c : Checked) (es : List Event) : Checked :=
  es.foldl (fun c e => (c.step e).1) c

end Checked

end Switchboard
