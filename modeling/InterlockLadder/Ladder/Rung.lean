import InterlockLadder.Ladder.Opening

/-! The rung of a condition: the logic of its kind, the output of its device, and the move of its
interlock number into the error device. A condition is lowered as a whole or not at all; the first
defect found is the one reported. -/

namespace InterlockLadder

/-- Why a condition has no rung. -/
inductive Defect where
  | missingDevice
  | missingNumber
  /-- The IO point at this position, in the order of the indices, is absent or has no address. -/
  | missingPoint (position : Nat)
  | unresolvedSensor (key : String)
  | missingReference
  | unrecognizedKind (tag : UInt32)
deriving DecidableEq, Repr

namespace Defect

def problem : Defect → Problem
  | missingDevice => .missingDevice
  | missingNumber => .missingInterlockNumber
  | missingPoint _ => .missingIoOperand
  | unresolvedSensor _ => .unresolvedSensor
  | missingReference => .missingReference
  | unrecognizedKind _ => .unrecognizedConditionType

/-- The diagnostic of a condition with this defect. -/
def diagnostic (c : Cylinder) (i : Interlock) (condition : Condition) (defect : Defect) :
    Diagnostic :=
  let common := Diagnostic.describe
    { problem := defect.problem, owner := .condition c i condition } "number"
    (toString condition.number.toNat)
  match defect with
  | missingPoint position => common.describe "position" (toString position)
  | unresolvedSensor key => common.describe "key" key
  | unrecognizedKind tag => common.describe "type" (toString tag.toNat)
  | _ => common

end Defect

/-- What the rungs of a cylinder may refer to. -/
structure Scope where
  options : Options
  sensors : List Sensor
  cylinder : Cylinder

/-- A rule that names the sensor of a condition. -/
inductive Convention where
  | alarm
  /-- Memory bits are wired through the alternate address where there is one. -/
  | memoryBit
deriving DecidableEq, Repr

namespace Convention

def naming (o : Options) : Convention → SensorNaming
  | alarm => o.alarmSensor
  | memoryBit => o.memorySensor

/-- The address by which the convention reads a sensor. -/
def address? (s : Sensor) : Convention → Option String
  | alarm => Text.nonBlank? s.address
  | memoryBit => s.alternate?.or (Text.nonBlank? s.address)

/-- The name of the sensor that the convention asks for. -/
def key (s : Scope) (v : Convention) : String :=
  (v.naming s.options).key s.cylinder.name.number

/-- A cylinder without a controller sees all sensors, any other those of its own controller. -/
def sees (c : Cylinder) (s : Sensor) : Bool :=
  c.plc = none || s.plc = c.plc

/-- The address of the first sensor in sight that bears the name. -/
def resolve? (s : Scope) (v : Convention) : Option String :=
  (s.sensors.find? fun sensor => sees s.cylinder sensor && Text.trim sensor.name = v.key s).bind
    v.address?

end Convention

def Condition.Kind.convention? : Condition.Kind → Option Convention
  | alarmSensor => some .alarm
  | memorySensor => some .memoryBit
  | _ => none

/-- The trimmed address of the IO point at a position. -/
def pointAddress (ios : List IoPoint) (position : Nat) : Except Defect String :=
  match ios[position]?.bind fun io => Text.nonBlank? io.address with
  | some address => .ok address
  | none => .error (.missingPoint position)

/-- The trimmed addresses of all IO points, the first of which has the given position. -/
def pointAddresses (position : Nat) : List IoPoint → Except Defect (List String)
  | [] => .ok []
  | io :: ios =>
    match Text.nonBlank? io.address with
    | none => .error (.missingPoint position)
    | some address => (pointAddresses (position + 1) ios).map (address :: ·)

namespace Condition

/-- One contact that reads the first IO point. -/
def singleContact (opcode : Opcode) (ios : List IoPoint) : Except Defect (List Instruction) := do
  let first ← pointAddress ios 0
  return [⟨opcode, first⟩]

/-- The first point, or the negation of the second. -/
def dualNegatedPair (ios : List IoPoint) : Except Defect (List Instruction) := do
  let first ← pointAddress ios 0
  let second ← pointAddress ios 1
  return [⟨.ld, first⟩, ⟨.ori, second⟩, { opcode := .anb }]

/-- Both points on, or both off. -/
def orDual (ios : List IoPoint) : Except Defect (List Instruction) := do
  let first ← pointAddress ios 0
  let second ← pointAddress ios 1
  return [⟨.ld, first⟩, ⟨.and, second⟩, ⟨.ldi, first⟩, ⟨.ani, second⟩, { opcode := .orb },
    { opcode := .anb }]

/-- The first point, or the negation of any other one. A single point is a plain contact. -/
def orMany (ios : List IoPoint) : Except Defect (List Instruction) := do
  match ← pointAddresses 0 ios with
  | [] => throw (.missingPoint 0)
  | [first] => return [⟨.and, first⟩]
  | first :: others =>
    return ⟨.ld, first⟩ :: others.map (⟨.ori, ·⟩) ++ [{ opcode := .orb }]

/-- The negation of the sensor that the convention names. -/
def sensor (s : Scope) (v : Convention) : Except Defect (List Instruction) :=
  match v.resolve? s with
  | some address => .ok [⟨.ani, address⟩]
  | none => .error (.unresolvedSensor (v.key s))

/-- The bit of another interlock, by the polarity of the condition. -/
def interlockRef (c : Condition) : Except Defect (List Instruction) :=
  match c.referencedDevice? with
  | some device => .ok [⟨c.polarity.contact, device⟩]
  | none => .error .missingReference

/-- The logic of a condition, which continues the opening of its interlock. -/
def logic (s : Scope) (c : Condition) : Except Defect (List Instruction) :=
  match c.kind with
  | .on => singleContact .and c.sortedIos
  | .onInverted | .limit => singleContact .ani c.sortedIos
  | .dualNegatedPair => dualNegatedPair c.sortedIos
  | .orDual => orDual c.sortedIos
  | .orMany => orMany c.sortedIos
  | .alarmSensor => sensor s .alarm
  | .memorySensor => sensor s .memoryBit
  | .interlockRef => c.interlockRef
  | .interlockIo => singleContact .ani c.sortedIos
  | .unrecognized tag => .error (.unrecognizedKind tag)

end Condition

/-- A condition that could be lowered. -/
structure Rung where
  statement : String
  logic : List Instruction
  device : String
  number : UInt32
deriving DecidableEq, Repr

namespace Rung

/-- Sets the device and moves the interlock number into the error device. -/
def outputs (o : Options) (r : Rung) : List Instruction :=
  [⟨.out, r.device⟩, ⟨.mov, o.literal r.number ++ " " ++ o.errorDevice⟩]

/-- The rung behind the opening of its interlock. -/
def items (o : Options) (opening : List Instruction) (r : Rung) : List Item :=
  .statement r.statement :: (opening ++ r.logic ++ r.outputs o).map .instruction

end Rung

namespace Condition

/-- The rung of a condition. It is introduced by the comments or else by the condition's name. -/
def rung (s : Scope) (c : Condition) : Except Defect Rung :=
  match c.assignedDevice? with
  | none => .error .missingDevice
  | some device =>
    match c.interlockNumber with
    | none => .error .missingNumber
    | some number => (c.logic s).map fun logic =>
      ⟨c.comment?.getD c.displayName, logic, device, number⟩

/-- The note on the sensor that a rung reads. -/
def sensorNote (s : Scope) (c : Condition) : List Entry :=
  match c.kind.convention? with
  | none => []
  | some v =>
    match v.resolve? s with
    | none => []
    | some address =>
      [.trace .sensorFamily ("Resolved sensor " ++ v.key s ++ " to " ++ address)]

/-- What a condition puts into the journal. -/
def journal (s : Scope) (i : Interlock) (c : Condition) : List Entry :=
  .trace .generation ("Lowering " ++ c.displayName ++ " of type " ++ toString c.kind.tag.toNat) ::
    match c.rung s with
    | .ok _ => c.sensorNote s
    | .error defect => [.report (defect.diagnostic s.cylinder i c)]

end Condition

end InterlockLadder
