/-! The condition model of a plant: cylinders own interlocks, an interlock owns conditions, and a
condition owns IO points. Output devices and interlock numbers are assigned before the model gets
here, so a model is only ever read. -/

namespace InterlockLadder

inductive Polarity where
  | on
  | off
deriving DecidableEq, Repr

def Polarity.name : Polarity → String
  | on => "on"
  | off => "off"

inductive Direction where
  | both
  | forward
  | backward
deriving DecidableEq, Repr

def Direction.name : Direction → String
  | both => "both"
  | forward => "forward"
  | backward => "backward"

def Direction.includesForward (d : Direction) : Bool :=
  d = .both || d = .forward

def Direction.includesBackward (d : Direction) : Bool :=
  d = .both || d = .backward

inductive RunMode where
  | auto
  | manual
  | always
deriving DecidableEq, Repr

def RunMode.name : RunMode → String
  | auto => "auto"
  | manual => "manual"
  | always => "always"

/-- The process steps from `first` to `last`, both included. -/
structure ProcessRange where
  first : UInt32
  last : UInt32
deriving DecidableEq, Repr

/-- Which of the two addresses of a gate counts. -/
inductive Gate.Kind where
  | io
  | device
deriving DecidableEq, Repr

def Gate.Kind.name : Gate.Kind → String
  | io => "io"
  | device => "device"

/-- A signal that has to have the given polarity for the conditions of an interlock to count. -/
structure Gate where
  kind : Gate.Kind
  ioAddress : Option String
  deviceAddress : Option String
  polarity : Polarity
deriving DecidableEq, Repr

/-- How a condition is written as logic. -/
inductive Condition.Kind where
  | on
  | onInverted
  | limit
  | dualNegatedPair
  | orDual
  | orMany
  | alarmSensor
  | memorySensor
  | interlockRef
  | interlockIo
  | unrecognized (tag : UInt32)
deriving DecidableEq, Repr

namespace Condition.Kind

def tag : Condition.Kind → UInt32
  | on => 1
  | onInverted => 2
  | limit => 3
  | dualNegatedPair => 4
  | orDual => 5
  | orMany => 6
  | alarmSensor => 11
  | memorySensor => 12
  | interlockRef => 21
  | interlockIo => 22
  | unrecognized tag => tag

/-- The kinds that have a meaning. -/
def recognized : List Condition.Kind :=
  [on, onInverted, limit, dualNegatedPair, orDual, orMany, alarmSensor, memorySensor, interlockRef,
   interlockIo]

def ofTag (n : UInt32) : Condition.Kind :=
  (recognized.find? fun kind => kind.tag = n).getD (unrecognized n)

def isRecognized (kind : Condition.Kind) : Bool :=
  recognized.contains kind

/-- Reading a tag loses nothing. -/
theorem tag_ofTag (n : UInt32) : (ofTag n).tag = n := by
  unfold ofTag
  cases h : recognized.find? fun kind => kind.tag = n with
  | none => rfl
  | some kind => simpa using List.find?_some h

end Condition.Kind

/-- An input that a condition reads. -/
structure IoPoint where
  index : UInt32
  address : String
  polarity : Polarity
deriving DecidableEq, Repr

/-- One Boolean term of an interlock. -/
structure Condition where
  id : UInt32
  number : UInt32
  kind : Condition.Kind
  polarity : Polarity
  device : Option String
  interlockNumber : Option UInt32
  /-- The bit of another interlock, for conditions that refer to one. -/
  reference : Option String
  ios : List IoPoint
  comment1 : Option String
  comment2 : Option String
deriving DecidableEq, Repr

/-- A safety condition that gates the movement of a cylinder. -/
structure Interlock where
  id : UInt32
  sortId : UInt32
  name : Option String
  direction : Direction
  runMode : Option RunMode
  processRange : Option ProcessRange
  gate : Option Gate
  conditions : List Condition
deriving DecidableEq, Repr

/-- The parts of a cylinder's name, for instance `CY`, `012` and `A`. -/
structure CylinderName where
  lead : String
  number : String
  trail : String
deriving DecidableEq, Repr

structure Cylinder where
  id : UInt32
  name : CylinderName
  /-- The letters in front of a device number, for instance `M`. -/
  label : String
  /-- The device number from which the cylinder's own devices are counted. -/
  base : UInt32
  plc : Option UInt32
  interlocks : List Interlock
deriving DecidableEq, Repr

/-- A named input of a controller. -/
structure Sensor where
  address : String
  altAddress : Option String
  name : String
  plc : Option UInt32
deriving DecidableEq, Repr

structure ProcessStep where
  id : UInt32
  name : String
deriving DecidableEq, Repr

structure Plant where
  cylinders : List Cylinder
  sensors : List Sensor
  processSteps : List ProcessStep
deriving DecidableEq, Repr

/-- The plant without any record. -/
def Plant.empty : Plant :=
  ⟨[], [], []⟩

end InterlockLadder
