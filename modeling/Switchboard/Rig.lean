import Switchboard.Output.Driver

/-!
# The rig

A plant with its drivers, the timer that ends pulses, tokens of others and subscriptions. An event is
one thing that happens to the rig from outside, and `Rig.step` is what it does and what it answers; a
run of the rig is a list of events. Due pulses end while time passes, in the order of their times.
-/

namespace Switchboard

open Output (Driver Outcome)

/-- A pulse that was begun, for whoever waits for its end. -/
structure Started where
  output : String
  driver : Nat
  /-- How the switch-off went, once it was tried. -/
  ended : Option (Except Output.Error Unit)

/-- A plant with what works on it. -/
structure Rig where
  plant : Plant
  /-- The timer that pulses run on, in milliseconds. -/
  timer : Nat
  drivers : Table Nat Driver
  /-- Tokens that are not a driver's, by serial. -/
  tokens : Table Nat Interlock.Token
  subscriptions : Table Nat Gpio.Subscription
  /-- The pulses that someone may wait for, by serial. -/
  started : Table Nat Started
  next : Nat

/-- What an event answers. -/
inductive Reply where
  | done
  | flag (b : Bool)
  | serial (n : Nat)
  | edge (e : Gpio.Edge)
  /-- An edge, or that there is none. -/
  | received (e : Option Gpio.Edge)
  | pending
  | pinFailed (e : Gpio.Error)
  | outputFailed (e : Output.Error)
  /-- There is nothing with the serial. -/
  | missing

/-- What a driver is told. -/
inductive Command where
  | set (on : Bool)
  | toggle
  | duty (d : Single)
  | process
  | emergencyStop
  | shutdown
  | resetLockout
  | restore (total : UInt64) (cycles : UInt32)
  /-- Switch on and off again at once. -/
  | pulseNow

/-- Something that happens to the rig. -/
inductive Event where
  | create (c : Output.Config)
  | close (driver : Nat)
  | command (driver : Nat) (c : Command)
  /-- A pulse is begun, where a timer may be missing. -/
  | pulse (driver : Nat) (millis : Option UInt32) (timed : Bool)
  | cancelPulse (pulse : Nat)
  /-- The end of a pulse is asked for; after that no one can ask again. -/
  | awaitPulse (pulse : Nat)
  /-- Time passes on the clocks, and forward on the timer, in milliseconds. -/
  | advance (millis : Int)
  /-- Time passes on the clocks only, in nanoseconds. -/
  | drift (nanos : Int)
  /-- Time passes on the timer only, which does not get to its pulses yet, in milliseconds. -/
  | lapse (millis : Nat)
  /-- The timer gets to a pulse of a driver. -/
  | ring (driver number : Nat)
  | setWall (wall : Timestamp)
  | pin (access : Gpio.Access)
  /-- A line of the bench alone is accessed. -/
  | line (access : Gpio.Access)
  /-- A listener is kept for a pin, or none. -/
  | setListener (pin : Gpio.Pin) (listener : Bool)
  | inject (pin : Gpio.Pin) (level : Bool)
  /-- The writes to a pin begin or cease to fail. -/
  | setFailing (pin : Gpio.Pin) (failing : Bool)
  | subscribe (pin : Gpio.Pin) (edge : Gpio.EdgeMode)
  | receive (subscription : Nat)
  | cancel (subscription : Nat)
  | unsubscribe (subscription : Nat)
  | register (group : Interlock.Group)
  | createToken (id : Int) (name : String)
  | dropToken (token : Nat)
  | reserve (group : Interlock.Group) (token : Nat)
  | confirm (group : Interlock.Group) (token : Nat)
  | abandon (group : Interlock.Group) (token : Nat)
  | free (group : Interlock.Group) (token : Nat)

namespace Rig

def new (plant : Plant) : Rig := ⟨plant, 0, .empty, .empty, .empty, .empty, 0⟩

/-- The rig and a serial that nothing in it has. -/
def fresh (r : Rig) : Nat × Rig :=
  (r.next, { r with next := r.next + 1 })

def setBoard (r : Rig) (board : Gpio.Board) : Rig :=
  { r with plant := { r.plant with board } }

def setBench (r : Rig) (bench : Gpio.Bench) : Rig :=
  r.setBoard { r.plant.board with bench }

def setGroups (r : Rig) (groups : Interlock.Groups) : Rig :=
  { r with plant := { r.plant with groups } }

def pinReply : Except Gpio.Error Unit → Reply
  | .ok () => .done
  | .error e => .pinFailed e

def accessReply : Gpio.Answer → Reply
  | .ok .done => .done
  | .ok (.level high) => .flag high
  | .ok (.edge e) => .edge e
  | .error e => .pinFailed e

def outputReply : Except Output.Error Unit → Reply
  | .ok () => .done
  | .error e => .outputFailed e

/-- The rig after an operation of a driver. -/
def keep (r : Rig) (serial : Nat) (o : Outcome) : Rig :=
  { r with plant := o.plant, drivers := r.drivers.insert serial o.driver }

/-! ## Drivers -/

/-- What a driver does at a command. -/
def obey (d : Driver) (p : Plant) : Command → Outcome
  | .set on => d.set p on
  | .toggle => d.toggle p
  | .duty duty => d.setDuty p duty
  | .process => d.process p
  | .emergencyStop => d.emergencyStop p
  | .shutdown => d.shutdown p
  | .resetLockout => d.resetLockout p
  | .restore total cycles => ⟨.ok (), d.restore total cycles, p, none⟩
  | .pulseNow => d.pulseNow p

def create (r : Rig) (c : Output.Config) : Rig × Reply :=
  let (serial, r) := r.fresh
  match Driver.create serial c r.plant with
  | (.ok d, plant) => ({ r with plant, drivers := r.drivers.insert serial d }, .serial serial)
  | (.error e, plant) => ({ r with plant }, .outputFailed e)

def close (r : Rig) (serial : Nat) : Rig × Reply :=
  match r.drivers.get? serial with
  | none => (r, .missing)
  | some d => ({ r with plant := d.close r.plant, drivers := r.drivers.erase serial }, .done)

def tell (r : Rig) (serial : Nat) (c : Command) : Rig × Reply :=
  match r.drivers.get? serial with
  | none => (r, .missing)
  | some d =>
    let o := obey d r.plant c
    (r.keep serial o, outputReply o.result)

/-! ## Pulses -/

def pulse (r : Rig) (serial : Nat) (millis : Option UInt32) (timed : Bool) : Rig × Reply :=
  match r.drivers.get? serial with
  | none => (r, .missing)
  | some d =>
    if !timed then (r, .outputFailed .noTimer)
    else
      let (n, r) := r.fresh
      let o := d.startPulse r.plant n r.timer millis
      let r := r.keep serial o
      match o.result with
      | .error e => (r, .outputFailed e)
      | .ok () => ({ r with started := r.started.insert n ⟨d.name, serial, none⟩ }, .serial n)

/-- The switch-off of a pulse is still to come. -/
def isPending (r : Rig) (pulse : Nat) : Bool :=
  (r.started.get? pulse).any fun s => (r.drivers.get? s.driver).any (·.awaits pulse)

def cancelPulse (r : Rig) (pulse : Nat) : Rig × Reply :=
  match r.started.get? pulse with
  | none => (r, .missing)
  | some s =>
    ({ r with
        plant := r.plant.note .debug .pulse (s.output ++ ": pulse cancelled")
        drivers := r.drivers.modify s.driver (·.cancelPulse pulse) }, .done)

/-- Asks how a pulse ended. One that was cancelled or replaced ended well. -/
def awaitPulse (r : Rig) (pulse : Nat) : Rig × Reply :=
  match r.started.get? pulse with
  | none => (r, .missing)
  | some s =>
    ({ r with started := r.started.erase pulse },
      if r.isPending pulse then .pending else outputReply (s.ended.getD (.ok ())))

/-- The pulses that are over by the timer, each with the serial of its driver: earlier ones first, and
of those due at one time the one that began first. -/
def due (r : Rig) : List (Nat × Output.Pulse) :=
  let waiting := r.drivers.entries.filterMap fun (serial, d) =>
    (d.pulse.filter fun q => !q.cancelled && q.due ≤ r.timer).map (serial, ·)
  waiting.mergeSort fun a b => a.2.due < b.2.due || (a.2.due == b.2.due && a.2.serial ≤ b.2.serial)

def finish (r : Rig) (serial : Nat) (q : Output.Pulse) : Rig :=
  match r.drivers.get? serial with
  | none => r
  | some d =>
    let o := d.finishPulse r.plant q.number
    let r := r.keep serial o
    { r with started := r.started.modify q.serial fun s => { s with ended := some o.result } }

/-- The timer gets to the pulse of a driver that has a number. If it is over it ends. A pulse that was
replaced finds so out, and one that was cancelled has nothing left to do. -/
def ring (r : Rig) (serial number : Nat) : Rig :=
  match r.drivers.get? serial with
  | none => r
  | some d =>
    match d.pulse.filter fun q => q.number == number with
    | none => r.keep serial (d.finishPulse r.plant number)
    | some q => if !q.cancelled && q.due ≤ r.timer then r.finish serial q else r

/-- The rig when time has passed and no pulse has ended yet. -/
def elapse (r : Rig) (millis : Int) : Rig :=
  { r with
    plant := { r.plant with clock := r.plant.clock.advance (millis * Clock.perMilli) }
    timer := r.timer + millis.toNat }

/-- Time passes. The pulses that are over by then end after the clocks have moved all the way. -/
def advance (r : Rig) (millis : Int) : Rig :=
  let r := r.elapse millis
  r.due.foldl (fun r (serial, q) => r.finish serial q) r

/-! ## Subscriptions -/

/-- Lets the poller of a subscription work. -/
def pump (r : Rig) (serial : Nat) : Rig :=
  match r.subscriptions.get? serial with
  | none => r
  | some s =>
    let (s, board) := s.pump r.plant.board
    { r.setBoard board with subscriptions := r.subscriptions.insert serial s }

def pumpPin (r : Rig) (pin : Gpio.Pin) : Rig :=
  r.subscriptions.entries.foldl (fun r (serial, s) => if s.pin = pin then r.pump serial else r) r

/-- A level from outside; pollers take the edge that it makes. -/
def inject (r : Rig) (pin : Gpio.Pin) (level : Bool) : Rig :=
  (r.setBench (r.plant.board.bench.inject pin level)).pumpPin pin

def subscribe (r : Rig) (pin : Gpio.Pin) (edge : Gpio.EdgeMode) : Rig × Reply :=
  if edge = .none then (r, .pinFailed .noEdge)
  else
    match r.plant.board.setEdge pin edge with
    | (.error e, board) => (r.setBoard board, .pinFailed e)
    | (.ok (), board) =>
      let (serial, r) := (r.setBoard board).fresh
      ({ r with subscriptions := r.subscriptions.insert serial (.start pin) }, .serial serial)

def receive (r : Rig) (serial : Nat) : Rig × Reply :=
  let r := r.pump serial
  match r.subscriptions.get? serial with
  | none => (r, .missing)
  | some s =>
    let (e, s) := s.receive
    (({ r with subscriptions := r.subscriptions.insert serial s }).pump serial, .received e)

def cancel (r : Rig) (serial : Nat) : Rig × Reply :=
  if r.subscriptions.contains serial then
    ({ r with subscriptions := r.subscriptions.modify serial (·.cancel) }, .done)
  else (r, .missing)

/-! ## Tokens -/

def withToken (r : Rig) (serial : Nat) (f : Interlock.Token → Rig × Reply) : Rig × Reply :=
  match r.tokens.get? serial with
  | none => (r, .missing)
  | some t => f t

def dropToken (r : Rig) (serial : Nat) : Rig × Reply :=
  r.withToken serial fun t =>
    ({ r.setGroups (r.plant.groups.forget t) with tokens := r.tokens.erase serial }, .done)

/-- Lets a token pass the gate of a group. -/
def reserve (r : Rig) (group : Interlock.Group) (serial : Nat) : Rig × Reply :=
  r.withToken serial fun t =>
    match r.plant.groups.reserve? group t with
    | some groups => (r.setGroups groups, .flag true)
    | none => (r, .flag false)

/-! ## Events -/

/-- What an event does and answers. -/
def step (r : Rig) : Event → Rig × Reply
  | .create c => r.create c
  | .close d => r.close d
  | .command d c => r.tell d c
  | .pulse d millis timed => r.pulse d millis timed
  | .cancelPulse q => r.cancelPulse q
  | .awaitPulse q => r.awaitPulse q
  | .advance millis => (r.advance millis, .done)
  | .drift nanos =>
    ({ r with plant := { r.plant with clock := r.plant.clock.advance nanos } }, .done)
  | .setWall wall =>
    ({ r with plant := { r.plant with clock := r.plant.clock.setWall wall } }, .done)
  | .lapse millis => ({ r with timer := r.timer + millis }, .done)
  | .ring d number => (r.ring d number, .done)
  | .pin a =>
    let (answer, plant) := r.plant.access a
    ({ r with plant }, accessReply answer)
  | .line a =>
    let (answer, plant) := r.plant.accessBench a
    ({ r with plant }, accessReply answer)
  | .setListener pin listener =>
    let (e, board) := r.plant.board.setListener pin listener
    (r.setBoard board, pinReply e)
  | .inject pin level => (r.inject pin level, .done)
  | .setFailing pin failing => (r.setBench (r.plant.board.bench.setFailing pin failing), .done)
  | .subscribe pin edge => r.subscribe pin edge
  | .receive s => r.receive s
  | .cancel s => r.cancel s
  | .unsubscribe s =>
    if r.subscriptions.contains s then
      ({ r with subscriptions := r.subscriptions.erase s }, .done)
    else (r, .missing)
  | .register group =>
    let (placed, plant) := r.plant.register group
    ({ r with plant }, .flag placed)
  | .createToken id name =>
    let (serial, r) := r.fresh
    ({ r with tokens := r.tokens.insert serial ⟨serial, id, name⟩ }, .serial serial)
  | .dropToken t => r.dropToken t
  | .reserve group t => r.reserve group t
  | .confirm group t => r.withToken t fun t => ({ r with plant := r.plant.confirm group t }, .done)
  | .abandon group t =>
    r.withToken t fun t => (r.setGroups (r.plant.groups.abandon group t), .done)
  | .free group t =>
    r.withToken t fun t => (r.setGroups (r.plant.groups.release group t), .done)

/-- A run: the rig after events, one after another. -/
def run (r : Rig) (es : List Event) : Rig :=
  es.foldl (fun r e => (r.step e).1) r

end Rig

end Switchboard
