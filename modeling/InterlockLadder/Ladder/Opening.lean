import InterlockLadder.Ladder.Permission
import InterlockLadder.Options

/-! The opening of an interlock: the instructions that start each of its rungs. The run mode comes
first and loads the requests to move; without one there is no expression to continue, so the
interlock has no rungs. A process range is noted but gates nothing. The gate comes last, and one
that names no address is reported and left out. -/

namespace InterlockLadder

/-- The contact that passes a signal of this polarity. -/
def Polarity.contact : Polarity → Opcode
  | on => .and
  | off => .ani

/-- The requests of a run mode, as pairs of a forward and a backward one. -/
def RunMode.requests : RunMode → List (UInt32 × UInt32)
  | manual => [(Offset.forwardManual, Offset.backwardManual)]
  | auto => [(Offset.forwardAuto, Offset.backwardAuto)]
  | always => [(Offset.forwardManual, Offset.backwardManual),
      (Offset.forwardAuto, Offset.backwardAuto)]

/-- The condition of the system under which a run mode counts. -/
def RunMode.signal (o : Options) : RunMode → Instruction
  | auto => ⟨.and, o.autoPauseSignal⟩
  | manual => ⟨.ani, o.manualPauseSignal⟩
  | always => ⟨.and, o.alwaysOnSignal⟩

/-- The requests of a run mode in the given direction: forward before backward, manual before
automatic. -/
def requestOffsets (mode : RunMode) (direction : Direction) : List UInt32 :=
  mode.requests.flatMap fun pair =>
    (if direction.includesForward then [pair.1] else []) ++
      (if direction.includesBackward then [pair.2] else [])

/-- Loads the first device and combines it with the others by disjunction. -/
def anyOf : List String → List Instruction
  | [] => []
  | device :: devices => ⟨.ld, device⟩ :: devices.map (⟨.or, ·⟩)

/-- One of the requests holds, and so does the signal of the mode. -/
def runModeOpening? (o : Options) (c : Cylinder) (mode : RunMode) (direction : Direction) :
    Option (List Instruction) :=
  ((requestOffsets mode direction).mapM c.device?).map fun devices =>
    anyOf devices ++ [mode.signal o]

def Gate.instruction? (g : Gate) : Option Instruction :=
  g.address?.map (⟨g.polarity.contact, ·⟩)

/-- The number of process steps within the range. -/
def ProcessRange.selected (r : ProcessRange) (steps : List ProcessStep) : Nat :=
  (steps.filter fun step => r.first ≤ step.id && step.id ≤ r.last).length

namespace Interlock

/-- The opening of the interlock, or the diagnostic that says why it has none. -/
def opening (o : Options) (c : Cylinder) (i : Interlock) : Except Diagnostic (List Instruction) :=
  match i.runMode with
  | none => .error { problem := .missingRunModePrecondition, owner := .interlock c i }
  | some mode =>
    match runModeOpening? o c mode i.direction with
    | none => .error (Offset.outOfRange c)
    | some instructions => .ok (instructions ++ (i.gate.bind Gate.instruction?).toList)

/-- The note on the process range, if there is one. -/
def rangeNote (steps : List ProcessStep) (i : Interlock) : List Entry :=
  match i.processRange with
  | none => []
  | some r =>
    [.trace .precondition ("Process range " ++ toString r.first.toNat ++ "..=" ++
      toString r.last.toNat ++ " selects " ++ toString (r.selected steps) ++ " steps")]

/-- The report on a gate that names no address. -/
def gateReport (c : Cylinder) (i : Interlock) : List Entry :=
  match i.gate with
  | none => []
  | some g =>
    match g.instruction? with
    | some _ => []
    | none =>
      [.report (Diagnostic.describe
        { problem := .unresolvedPrecondition, owner := .interlock c i } "kind" g.kind.name)]

/-- What the opening puts into the journal. -/
def openingJournal (o : Options) (steps : List ProcessStep) (c : Cylinder) (i : Interlock) :
    List Entry :=
  match i.opening o c with
  | .error diagnostic => [.report diagnostic]
  | .ok _ => i.rangeNote steps ++ i.gateReport c

end Interlock

end InterlockLadder
