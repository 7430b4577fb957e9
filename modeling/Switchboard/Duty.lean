import Switchboard.Number.Binary

/-!
# Duties

A duty is the share of time that an output is energised, from zero to one. It is stored as a byte.
-/

namespace Switchboard

namespace Duty

def zero : Single := ⟨false, 0⟩

def full : Single := ⟨false, 0x3F800000⟩

/-- A half: an output that is not pulse-width modulated switches on above it. -/
def half : Single := ⟨false, 0x3F000000⟩

/-- A hundredth: a pulse-width modulated output counts as on above it. -/
def threshold : Single := ⟨false, 0x3C23D70A⟩

def isShare (d : Single) : Bool :=
  zero.le d && d.le full

/-- The byte nearest to 255 times a duty that is first brought into the range from zero to one; the
product is rounded as a number of thirty-two bits, and a half goes up. A NaN is no duty. -/
def toByte (d : Single) : UInt8 :=
  let f := Format.single
  let c := d.clamp zero full
  if c.isNaN then 0
  else
    let product := f.nearest (f.scaled c.magnitude * 255) (2 ^ f.depth)
    .ofNat ((2 * f.scaled product + 2 ^ f.depth) / (2 * 2 ^ f.depth))

def ofByte (b : UInt8) : Single :=
  ⟨false, Format.single.nearest b.toNat 255⟩

end Duty

end Switchboard
