import InterlockLadder.Ladder.Generation
import InterlockLadder.Proofs.LadderMachine

/-! The meaning of a cylinder, read off its records alone: a list of assignments to the memory, one
for each condition that can be lowered and one for each permission (`Cylinder.assignments`). No
instruction occurs in it. The assignments are made one after the other, and each reads the memory
behind the ones before it (`Memory.assignAll`). -/

namespace InterlockLadder

/-- A bit, and the value that it gets in a memory. -/
structure Assignment where
  device : String
  value : Memory → Bool

namespace Memory

def assign (m : Memory) (a : Assignment) : Memory :=
  m.set a.device (a.value m)

def assignAll (m : Memory) (as : List Assignment) : Memory :=
  as.foldl assign m

@[simp] theorem assignAll_append (m : Memory) (as as' : List Assignment) :
    m.assignAll (as ++ as') = (m.assignAll as).assignAll as' :=
  List.foldl_append

end Memory

/-- A bit as a signal of the given polarity. -/
def Polarity.reads : Polarity → Bool → Bool
  | on, bit => bit
  | off, bit => !bit

/-- The device `offset` places above the base, whether or not its number fits into 32 bits. -/
def Cylinder.address (c : Cylinder) (offset : Nat) : String :=
  c.label ++ toString (c.base.toNat + offset)

/-! ## The precondition of an interlock -/

/-- Whether the system is in the run mode. -/
def RunMode.holds (o : Options) (m : Memory) : RunMode → Bool
  | auto => m o.autoPauseSignal
  | manual => !m o.manualPauseSignal
  | always => m o.alwaysOnSignal

/-- A gate that names no address is left out. -/
def Gate.holds (m : Memory) (g : Gate) : Bool :=
  g.address?.all fun address => g.polarity.reads (m address)

namespace Interlock

/-- Whether one of the requests that the run mode and the direction select is on. -/
def isRequested (c : Cylinder) (mode : RunMode) (i : Interlock) (m : Memory) : Bool :=
  mode ≠ .auto &&
      (i.direction.includesForward && m (c.address 10) ||
        i.direction.includesBackward && m (c.address 11)) ||
    mode ≠ .manual &&
      (i.direction.includesForward && m (c.address 12) ||
        i.direction.includesBackward && m (c.address 13))

def precondition (o : Options) (c : Cylinder) (mode : RunMode) (i : Interlock) (m : Memory) :
    Bool :=
  i.isRequested c mode m && mode.holds o m && i.gate.all (Gate.holds m)

end Interlock

/-! ## Conditions -/

namespace Condition

/-- The trimmed address of the IO point at a position in the order of the indices. -/
def point? (c : Condition) (position : Nat) : Option String :=
  c.sortedIos[position]?.bind fun io => Text.nonBlank? io.address

/-- The trimmed addresses of all IO points, if there are any and each has one. -/
def points? (c : Condition) : Option (String × List String) :=
  match c.sortedIos.mapM fun io => Text.nonBlank? io.address with
  | some (first :: others) => some (first, others)
  | _ => none

/-- When the condition itself is fulfilled, if its records say so. -/
def truth? (s : Scope) (c : Condition) : Option (Memory → Bool) :=
  match c.kind with
  | .on => (c.point? 0).map fun first m => m first
  | .onInverted | .limit | .interlockIo => (c.point? 0).map fun first m => !m first
  | .dualNegatedPair => do
    let first ← c.point? 0
    let second ← c.point? 1
    return fun m => m first || !m second
  | .orDual => do
    let first ← c.point? 0
    let second ← c.point? 1
    return fun m => m first && m second || !m first && !m second
  | .orMany => c.points?.map fun (first, others) m => m first || others.any (!m ·)
  | .alarmSensor => (Convention.alarm.resolve? s).map fun address m => !m address
  | .memorySensor => (Convention.memoryBit.resolve? s).map fun address m => !m address
  | .interlockRef => c.referencedDevice?.map fun device m => c.polarity.reads (m device)
  | .unrecognized _ => none

/-- Whether the condition is an alternative to the precondition of its interlock, where all others
are a further requirement. -/
def isAlternative (c : Condition) : Bool :=
  c.kind = .orMany && 2 ≤ c.ios.length

/-- The condition together with the precondition of its interlock. -/
def joined (c : Condition) (precondition truth : Bool) : Bool :=
  if c.isAlternative then precondition || truth else precondition && truth

/-- What a condition assigns to its device. One without device, interlock number or truth assigns
nothing. -/
def assignment? (s : Scope) (precondition : Memory → Bool) (c : Condition) : Option Assignment := do
  let device ← c.assignedDevice?
  let _ ← c.interlockNumber
  let truth ← c.truth? s
  return ⟨device, fun m => c.joined (precondition m) (truth m)⟩

end Condition

/-! ## Cylinders -/

/-- What the conditions assign in the order of their numbers. Without a run mode there is no
precondition, and nothing is assigned. -/
def Interlock.assignments (s : Scope) (i : Interlock) : List Assignment :=
  match i.runMode with
  | none => []
  | some mode => i.sortedConditions.filterMap
    (Condition.assignment? s (i.precondition s.options s.cylinder mode))

/-- The offsets of the requests to move and of their permissions. -/
def permissionOffsets : List (Nat × Nat) :=
  [(10, 17), (12, 15), (11, 18), (13, 16)]

namespace Cylinder

/-- What the conditions of all interlocks assign in the order of the sort ids. -/
def conditionAssignments (s : Scope) : List Assignment :=
  s.cylinder.sortedInterlocks.flatMap (Interlock.assignments s)

/-- A request is permitted while none of the outputs is on. -/
def permissionAssignments (c : Cylinder) (outputs : List String) : List Assignment :=
  permissionOffsets.map fun (request, permission) =>
    ⟨c.address permission, fun m => m (c.address request) && outputs.all (!m ·)⟩

/-- What a cylinder assigns: first its conditions, then the permissions that they block. -/
def assignments (p : Plant) (o : Options) (c : Cylinder) : List Assignment :=
  let conditions := conditionAssignments (c.scope p o)
  conditions ++ c.permissionAssignments (conditions.map Assignment.device)

end Cylinder

end InterlockLadder
