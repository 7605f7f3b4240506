/-! The catalogue of problems. Those numbered `G` are about a plant, those numbered `V` about a
mnemonic listing. -/

namespace InterlockLadder

inductive Problem where
  | noContent
  | deviceOutOfRange
  | missingDevice
  | missingInterlockNumber
  | missingIoOperand
  | unrecognizedConditionType
  | unresolvedSensor
  | missingReference
  | missingRunModePrecondition
  | unresolvedPrecondition
  | parameterWithoutInstruction
  | missingOperand
  | opcodeBeforeLoad
  | blockWithoutBranch
  | conditionalCall
  | noConditionExpression
  | unclassifiedInstruction
  | unresolvedBranches
  | duplicateOutput
deriving DecidableEq, Repr

namespace Problem

/-- All problems in the order of the catalogue. -/
def all : List Problem :=
  [noContent, deviceOutOfRange, missingDevice, missingInterlockNumber, missingIoOperand,
   unrecognizedConditionType, unresolvedSensor, missingReference, missingRunModePrecondition,
   unresolvedPrecondition, parameterWithoutInstruction, missingOperand, opcodeBeforeLoad,
   blockWithoutBranch, conditionalCall, noConditionExpression, unclassifiedInstruction,
   unresolvedBranches, duplicateOutput]

def code : Problem → String
  | noContent => "G0001"
  | deviceOutOfRange => "G0002"
  | missingDevice => "G0101"
  | missingInterlockNumber => "G0102"
  | missingIoOperand => "G0103"
  | unrecognizedConditionType => "G0104"
  | unresolvedSensor => "G0105"
  | missingReference => "G0106"
  | missingRunModePrecondition => "G0201"
  | unresolvedPrecondition => "G0202"
  | parameterWithoutInstruction => "V0001"
  | missingOperand => "V0002"
  | opcodeBeforeLoad => "V0003"
  | blockWithoutBranch => "V0004"
  | conditionalCall => "V0005"
  | noConditionExpression => "V0006"
  | unclassifiedInstruction => "V0007"
  | unresolvedBranches => "V0008"
  | duplicateOutput => "V0101"

def name : Problem → String
  | noContent => "NoContent"
  | deviceOutOfRange => "DeviceOutOfRange"
  | missingDevice => "MissingDevice"
  | missingInterlockNumber => "MissingInterlockNumber"
  | missingIoOperand => "MissingIoOperand"
  | unrecognizedConditionType => "UnrecognizedConditionType"
  | unresolvedSensor => "UnresolvedSensor"
  | missingReference => "MissingReference"
  | missingRunModePrecondition => "MissingRunModePrecondition"
  | unresolvedPrecondition => "UnresolvedPrecondition"
  | parameterWithoutInstruction => "ParameterWithoutInstruction"
  | missingOperand => "MissingOperand"
  | opcodeBeforeLoad => "OpcodeBeforeLoad"
  | blockWithoutBranch => "BlockWithoutBranch"
  | conditionalCall => "ConditionalCall"
  | noConditionExpression => "NoConditionExpression"
  | unclassifiedInstruction => "UnclassifiedInstruction"
  | unresolvedBranches => "UnresolvedBranches"
  | duplicateOutput => "DuplicateOutput"

def message : Problem → String
  | noContent => "Condition model contains no cylinders to generate"
  | deviceOutOfRange => "Cylinder base plus device offset exceeds the device address range"
  | missingDevice => "Condition has no assigned output device"
  | missingInterlockNumber => "Condition has no assigned interlock number"
  | missingIoOperand => "Condition lacks a required IO operand"
  | unrecognizedConditionType => "Condition type tag is not recognized"
  | unresolvedSensor => "Sensor lookup by naming convention did not resolve"
  | missingReference => "Interlock reference condition has no referenced device"
  | missingRunModePrecondition => "Interlock has no run-mode precondition to open the expression"
  | unresolvedPrecondition => "IO or device precondition does not resolve to an address"
  | parameterWithoutInstruction => "Parameter row has no preceding instruction"
  | missingOperand => "Instruction requires an operand address"
  | opcodeBeforeLoad => "Instruction appears before any load"
  | blockWithoutBranch => "Block combinator has no prior branch to combine"
  | conditionalCall => "Subroutine call is conditional"
  | noConditionExpression =>
    "Instruction consumes a condition expression but none is present"
  | unclassifiedInstruction => "Instruction is not classified"
  | unresolvedBranches => "Stream ends with unresolved parallel branches"
  | duplicateOutput => "Device is the target of more than one OUT instruction"

def ofName? (text : String) : Option Problem :=
  all.find? fun problem => problem.name = text

end Problem

end InterlockLadder
