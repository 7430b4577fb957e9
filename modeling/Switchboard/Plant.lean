import Switchboard.Gpio.Access
import Switchboard.Gpio.Subscription
import Switchboard.Interlock
import Switchboard.Log.Entry
import Switchboard.Time.Clock

/-!
# The plant

What the outputs share: the board of their pins, the interlock groups, the clocks and the log. Each
operation here is one of the board or of the groups together with the entries it makes in the log.
-/

namespace Switchboard

/-- What the outputs share. -/
structure Plant where
  board : Gpio.Board
  groups : Interlock.Groups
  clock : Clock
  log : List Log.Entry

namespace Plant

def new (board : Gpio.Board) (groups : Interlock.Groups) (wall : Timestamp) : Plant :=
  ⟨board, groups, .start wall, []⟩

def note (p : Plant) (level : Log.Level) (channel : Log.Channel) (text : String) : Plant :=
  { p with log := p.log ++ [⟨level, channel, text⟩] }

def configureText (pin : Gpio.Pin) (mode : Gpio.Mode) (pull : Gpio.Pull) : String :=
  "Dummy: configuring pin " ++ toString pin ++ " as " ++ mode.text ++ " (" ++ pull.text ++ ")"

def configure (p : Plant) (pin : Gpio.Pin) (mode : Gpio.Mode) (pull : Gpio.Pull) :
    Except Gpio.Error Unit × Plant :=
  let (result, board) := p.board.configure pin mode pull
  let p := { p with board }
  match result with
  | .ok () =>
    (.ok (), (p.note .debug .bench (configureText pin mode pull)).note .debug .board
      ("Configured " ++ board.chip ++ " pin " ++ toString pin ++ " as " ++ mode.text))
  | .error e => (.error e, p)

def release (p : Plant) (pin : Gpio.Pin) : Except Gpio.Error Unit × Plant :=
  let (result, board) := p.board.release pin
  let p := { p with board }
  match result with
  | .ok () => (.ok (), p.note .debug .board ("Released " ++ board.chip ++ " pin " ++ toString pin))
  | .error e => (.error e, p)

def writeText (pin : Gpio.Pin) (level : Bool) : String :=
  "Dummy: setting pin " ++ toString pin ++ " to " ++ if level then "HIGH" else "LOW"

def write (p : Plant) (pin : Gpio.Pin) (level : Bool) : Except Gpio.Error Unit × Plant :=
  let (result, board) := p.board.write pin level
  let p := { p with board }
  match result with
  | .ok () => (.ok (), p.note .debug .bench (writeText pin level))
  | .error e => (.error e, p)

/-- Gives up all pins and the lines below. -/
def shutdown (p : Plant) : Plant :=
  let p' := p.board.strays.foldl (fun p pin =>
    p.note .debug .board
      ("Releasing pin " ++ toString pin ++ " during shutdown: " ++ (Gpio.Error.notFound pin).message)) p
  { p' with board := p.board.shutdown }.note .info .board ("GPIO " ++ p.board.chip ++ " shut down")

def access (p : Plant) : Gpio.Access → Gpio.Answer × Plant
  | .shutdown => (.ok .done, p.shutdown)
  | .configure pin mode pull => (p.configure pin mode pull).map Gpio.Answer.ofUnit id
  | .release pin => (p.release pin).map Gpio.Answer.ofUnit id
  | .write pin level => (p.write pin level).map Gpio.Answer.ofUnit id
  | a =>
    let (answer, board) := p.board.access a
    (answer, { p with board })

/-- The entry that an access to the bench alone makes if it succeeds, where it makes one. -/
def benchText? : Gpio.Access → Option String
  | .configure pin mode pull => some (configureText pin mode pull)
  | .write pin level => some (writeText pin level)
  | _ => none

def accessBench (p : Plant) (a : Gpio.Access) : Gpio.Answer × Plant :=
  let (answer, bench) := p.board.bench.access a
  let p := { p with board := { p.board with bench } }
  match answer, benchText? a with
  | .ok _, some text => (answer, p.note .debug .bench text)
  | _, _ => (answer, p)

/-- Gives an interlock group a place; a full table is an error in the log only. -/
def register (p : Plant) (group : Interlock.Group) : Bool × Plant :=
  let (placed, groups) := p.groups.register group
  let p := { p with groups }
  if placed then (true, p)
  else
    (false, p.note .error .interlock
      ("Interlock table full (" ++ toString groups.capacity ++ " groups); group " ++ toString group
        ++ " is unregistered and will "
        ++ match groups.overflow with
          | .failOpen => "never block"
          | .failClosed => "block every output"))

/-- The claim of a token on a group is held. -/
def confirm (p : Plant) (group : Interlock.Group) (t : Interlock.Token) : Plant :=
  let p' := { p with groups := p.groups.confirm group t }
  if p.groups.isForeign group t then
    p'.note .warn .interlock
      ("Interlock group " ++ toString group ++ ": " ++ t.name ++ " confirmed a claim it does not hold")
  else p'

end Plant

end Switchboard
