/-! What a plant decides about generation: the system signals, the device that collects error
numbers, the mark of literals and the naming of sensors. -/

namespace InterlockLadder

/-- The mark of a literal operand where none is given. -/
def defaultLiteralMark : String :=
  "K"

/-- A sensor is named by the number of its cylinder between two fixed texts. -/
structure SensorNaming where
  lead : String
  trail : String
deriving DecidableEq, Repr

def SensorNaming.key (n : SensorNaming) (number : String) : String :=
  n.lead ++ number ++ n.trail

structure Options where
  manualPauseSignal : String
  autoPauseSignal : String
  alwaysOnSignal : String
  errorDevice : String
  literalMark : String
  alarmSensor : SensorNaming
  memorySensor : SensorNaming
deriving DecidableEq, Repr

namespace Options

def default : Options where
  manualPauseSignal := "M7000"
  autoPauseSignal := "M7001"
  alwaysOnSignal := "SM400"
  errorDevice := "D9000"
  literalMark := defaultLiteralMark
  alarmSensor := ⟨"", "ALM"⟩
  memorySensor := ⟨"MB", ""⟩

/-- The operand text of a number. -/
def literal (o : Options) (value : UInt32) : String :=
  o.literalMark ++ toString value.toNat

end Options

end InterlockLadder
