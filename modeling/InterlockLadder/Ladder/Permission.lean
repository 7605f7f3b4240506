import InterlockLadder.Ladder.Item

/-! The cylinder's own devices, by their distance from its base: requests to move, and permissions
to do so. The permission rungs close the block of a cylinder. Each passes one request on to the
permission device as long as no condition of the cylinder is on. -/

namespace InterlockLadder

namespace Offset

def forwardManual : UInt32 := 10
def backwardManual : UInt32 := 11
def forwardAuto : UInt32 := 12
def backwardAuto : UInt32 := 13

/-- The greatest distance in use. -/
def greatest : UInt32 := 18

/-- The diagnostic of a cylinder whose devices do not all have a number. -/
def outOfRange (c : Cylinder) : Diagnostic :=
  Diagnostic.describe { problem := .deviceOutOfRange, owner := .cylinder c } "base"
    (toString c.base.toNat)

end Offset

structure Permission where
  name : String
  request : UInt32
  target : UInt32
deriving DecidableEq, Repr

namespace Permission

/-- The permissions in the order of their rungs. -/
def all : List Permission :=
  [⟨"forward manual", Offset.forwardManual, 17⟩, ⟨"forward auto", Offset.forwardAuto, 15⟩,
   ⟨"backward manual", Offset.backwardManual, 18⟩, ⟨"backward auto", Offset.backwardAuto, 16⟩]

/-- Passes the request on unless one of the outputs is on. -/
def logic (request target : String) (outputs : List String) : List Instruction :=
  ⟨.ld, request⟩ :: outputs.map (⟨.ani, ·⟩) ++ [⟨.out, target⟩]

/-- The rung of a permission that the given outputs may block. -/
def items? (c : Cylinder) (outputs : List String) (p : Permission) : Option (List Item) := do
  let request ← c.device? p.request
  let target ← c.device? p.target
  return .statement (c.displayName ++ " " ++ p.name ++ " permission") ::
    (logic request target outputs).map .instruction

/-- All four rungs, unless a device has no number. -/
def rungs? (c : Cylinder) (outputs : List String) : Option (List Item) :=
  (all.mapM (items? c outputs)).map List.flatten

end Permission

end InterlockLadder
