import Switchboard.Data.Table

/-!
# Interlock groups

Outputs of one group exclude each other. A claim on a group goes through two steps: it is reserved
before the output is energised, so that two outputs cannot both pass the gate, and held once it is.
Only a held claim has a holder. A claim belongs to a token, an identity of its own: two tokens may
carry the same id and name. When a token is given up its claims are free.
-/

namespace Switchboard.Interlock

/-- The number of a group. -/
abbrev Group := UInt32

/-- The identity that an output shows to the groups. -/
structure Token where
  /-- What tells this token from all others. -/
  serial : Nat
  id : Int
  name : String
  deriving DecidableEq, Repr

/-- What becomes of a group that does not fit into the table. -/
inductive Overflow where
  | failOpen
  /-- It never lets an output on. -/
  | failClosed
  deriving DecidableEq, Repr

def Overflow.text : Overflow → String
  | .failOpen => "FailOpen"
  | .failClosed => "FailClosed"

/-- Who has a group. -/
inductive Claim where
  | free
  /-- A token that has passed the gate. -/
  | reserved (t : Token)
  | held (t : Token)
  deriving DecidableEq, Repr

namespace Claim

/-- The token that has the group. -/
def owner? : Claim → Option Token
  | free => none
  | reserved t | held t => some t

def isOf (c : Claim) (t : Token) : Bool :=
  c.owner?.any fun u => u.serial == t.serial

/-- The token, or nobody, has the group. -/
def admits (c : Claim) (t : Token) : Bool :=
  c.owner?.all fun u => u.serial == t.serial

end Claim

/-- The table of the groups. -/
structure Groups where
  capacity : Nat
  overflow : Overflow
  claims : Table Group Claim

namespace Groups

def new (capacity : Nat) (overflow : Overflow) : Groups := ⟨capacity, overflow, .empty⟩

def isRegistered (g : Groups) (group : Group) : Bool :=
  g.claims.contains group

/-- Gives a group a place if it has none, unless the table is full. -/
def register (g : Groups) (group : Group) : Bool × Groups :=
  if g.isRegistered group then (true, g)
  else if g.capacity ≤ g.claims.size then (false, g)
  else (true, { g with claims := g.claims.insert group .free })

/-- The gate of a group would let the token through. -/
def isAvailable (g : Groups) (group : Group) (t : Token) : Bool :=
  match g.claims.get? group with
  | none => g.overflow == .failOpen
  | some c => c.admits t

/-- The table after a token passed the gate of a group, if it did. A token that has the group already
keeps its claim as it is. -/
def reserve? (g : Groups) (group : Group) (t : Token) : Option Groups :=
  match g.claims.get? group with
  | none => if g.overflow = .failOpen then some g else none
  | some c =>
    match c.owner? with
    | some u => if u.serial = t.serial then some g else none
    | none => some { g with claims := g.claims.insert group (.reserved t) }

/-- The output of the token is on: its claim is held. -/
def confirm (g : Groups) (group : Group) (t : Token) : Groups :=
  { g with claims := g.claims.modify group fun c => if c.isOf t then .held t else c }

def isForeign (g : Groups) (group : Group) (t : Token) : Bool :=
  (g.claims.get? group).any fun c => !c.admits t

/-- Takes back a reservation of the token. A held claim stays. -/
def abandon (g : Groups) (group : Group) (t : Token) : Groups :=
  { g with
    claims := g.claims.modify group fun c =>
      match c with
      | .reserved u => if u.serial = t.serial then .free else c
      | c => c }

/-- Frees the group if the token has it. -/
def release (g : Groups) (group : Group) (t : Token) : Groups :=
  { g with claims := g.claims.modify group fun c => if c.isOf t then .free else c }

def forget (g : Groups) (t : Token) : Groups :=
  { g with claims := g.claims.map fun _ c => if c.isOf t then .free else c }

/-- The token whose output is on. -/
def holder? (g : Groups) (group : Group) : Option Token :=
  match g.claims.get? group with
  | some (.held t) => some t
  | _ => none

end Groups

end Switchboard.Interlock
