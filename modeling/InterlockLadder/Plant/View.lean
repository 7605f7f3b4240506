import InterlockLadder.Plant.Basic
import InterlockLadder.Text.Basic

/-! What the rest of the library reads off a plant: names, trimmed addresses, device addresses, and
the lists of records in the order in which they are lowered. Sorting is stable, so records with
equal keys keep the order in which they were given. -/

namespace InterlockLadder

/-- The trimmed text of an optional field that is present and not blank. -/
def filled? (field : Option String) : Option String :=
  field.bind Text.nonBlank?

/-- The address that the kind of the gate selects. -/
def Gate.address? (g : Gate) : Option String :=
  filled? <| match g.kind with
    | .io => g.ioAddress
    | .device => g.deviceAddress

namespace Condition

def assignedDevice? (c : Condition) : Option String :=
  filled? c.device

def referencedDevice? (c : Condition) : Option String :=
  filled? c.reference

/-- The IO points in ascending order of their index. -/
def sortedIos (c : Condition) : List IoPoint :=
  c.ios.mergeSort fun a b => a.index ≤ b.index

/-- The comments that are not blank, joined by a space. -/
def comment? (c : Condition) : Option String :=
  match [c.comment1, c.comment2].filterMap filled? with
  | [] => none
  | parts => some (" ".intercalate parts)

def displayName (c : Condition) : String :=
  "condition " ++ toString c.number.toNat

end Condition

namespace Interlock

/-- The conditions in ascending order of their number. -/
def sortedConditions (i : Interlock) : List Condition :=
  i.conditions.mergeSort fun a b => a.number ≤ b.number

def displayName (i : Interlock) : String :=
  (filled? i.name).getD ("interlock " ++ toString i.sortId.toNat)

end Interlock

namespace Cylinder

/-- The device `offset` places above the base, unless its number exceeds 32 bits. -/
def device? (c : Cylinder) (offset : UInt32) : Option String :=
  if c.base.toNat + offset.toNat < UInt32.size then
    some (c.label ++ toString (c.base + offset).toNat)
  else none

def displayName (c : Cylinder) : String :=
  c.name.lead ++ c.name.number ++ c.name.trail

/-- The interlocks in ascending order of their sort id. -/
def sortedInterlocks (c : Cylinder) : List Interlock :=
  c.interlocks.mergeSort fun a b => a.sortId ≤ b.sortId

end Cylinder

/-- The address of the alternate wiring of a sensor. -/
def Sensor.alternate? (s : Sensor) : Option String :=
  filled? s.altAddress

end InterlockLadder
