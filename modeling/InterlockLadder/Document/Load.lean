import InterlockLadder.Document.Plant
import InterlockLadder.Document.Read
import InterlockLadder.Options
import InterlockLadder.Row

/-! Loading and saving plants, options and listings as JSON.

The document of a listing is a list of rows. The key of a row is required, and a statement that is
absent is not written. In the document of the options every field may be left out and keeps its own
default, but a naming that is given sets both of its texts: one left out there is empty. -/

namespace InterlockLadder

/-! ## Listings -/

namespace Row

def schema : Schema :=
  .record "InstructionRow"
    [.required "key" .number, .defaulted "step" .text (.text ""),
     .defaulted "opcode" .text (.text ""), .defaulted "operand" .text (.text ""),
     .omittable "statement" .text]

def toDatum (row : Row) : Datum :=
  .record [.number row.key, .text row.step, .text row.opcode, .text row.operand,
    .ofOption .text row.statement]

def ofDatum : Datum → Row
  | .record [key, step, opcode, operand, statement] =>
    { key := key.toNumber, step := step.toText, opcode := opcode.toText, operand := operand.toText,
      statement := statement.toOption Datum.toText }
  | _ => { key := 0 }

/-- The schema of a whole listing. -/
def listSchema : Schema :=
  .list schema

end Row

/-! ## Options -/

namespace SensorNaming

def schema : Schema :=
  .record "SensorNaming"
    [.defaulted "prefix" .text (.text ""), .defaulted "suffix" .text (.text "")]

def toDatum (n : SensorNaming) : Datum :=
  .record [.text n.lead, .text n.trail]

def ofDatum : Datum → SensorNaming
  | .record [lead, trail] => ⟨lead.toText, trail.toText⟩
  | _ => ⟨"", ""⟩

end SensorNaming

namespace Options

def schema : Schema :=
  .record "GenerationOptions"
    [.defaulted "manual_pause_signal" .text (.text default.manualPauseSignal),
     .defaulted "auto_pause_signal" .text (.text default.autoPauseSignal),
     .defaulted "always_on_signal" .text (.text default.alwaysOnSignal),
     .defaulted "error_device" .text (.text default.errorDevice),
     .defaulted "literal_prefix" .text (.text default.literalMark),
     .defaulted "alarm_sensor" SensorNaming.schema default.alarmSensor.toDatum,
     .defaulted "memory_sensor" SensorNaming.schema default.memorySensor.toDatum]

def toDatum (o : Options) : Datum :=
  .record [.text o.manualPauseSignal, .text o.autoPauseSignal, .text o.alwaysOnSignal,
    .text o.errorDevice, .text o.literalMark, o.alarmSensor.toDatum, o.memorySensor.toDatum]

def ofDatum : Datum → Options
  | .record [manualPause, autoPause, alwaysOn, errorDevice, literalMark, alarm, memory] =>
    { manualPauseSignal := manualPause.toText, autoPauseSignal := autoPause.toText,
      alwaysOnSignal := alwaysOn.toText, errorDevice := errorDevice.toText,
      literalMark := literalMark.toText, alarmSensor := .ofDatum alarm,
      memorySensor := .ofDatum memory }
  | _ => default

end Options

/-! ## Loading and saving -/

/-- Why a text is not the document asked for. -/
structure Malformed where
  category : Json.Category
  message : String
deriving DecidableEq, Repr

namespace Malformed

/-- The failure in a text, with its place there. -/
def ofFailure (text : String) (f : Json.Failure) : Malformed :=
  ⟨f.fault.category, "Malformed JSON: " ++ f.message text⟩

end Malformed

/-- Loads a text by a schema. -/
def load {α : Type} (schema : Schema) (ofDatum : Datum → α) (text : String) : Except Malformed α :=
  match schema.load text with
  | .ok d => .ok (ofDatum d)
  | .error f => .error (.ofFailure text f)

namespace Plant

def ofJson (text : String) : Except Malformed Plant :=
  load schema ofDatum text

def toJson (form : Json.Form) (p : Plant) : String :=
  (schema.write p.toDatum).render form

end Plant

namespace Options

def ofJson (text : String) : Except Malformed Options :=
  load schema ofDatum text

def toJson (form : Json.Form) (o : Options) : String :=
  (schema.write o.toDatum).render form

end Options

namespace Row

def listOfJson (text : String) : Except Malformed (List Row) :=
  load listSchema (Datum.toList ofDatum) text

def listToJson (form : Json.Form) (rows : List Row) : String :=
  (listSchema.write (.ofList toDatum rows)).render form

end Row

end InterlockLadder
