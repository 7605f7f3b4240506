import InterlockLadder.Document.Schema
import InterlockLadder.Plant.Basic

/-! The document of a plant. Numbers that identify a record are required, and so are the texts that
locate it; lists and switches have defaults, and everything else may be absent. -/

namespace InterlockLadder

namespace Polarity

def schema : Schema :=
  .choice [on.name, off.name]

def toDatum (p : Polarity) : Datum :=
  .text p.name

def ofDatum (d : Datum) : Polarity :=
  if d.toText = off.name then off else on

/-- A switch that is on unless it is given. -/
def field : Field :=
  .defaulted "polarity" schema on.toDatum

end Polarity

namespace Direction

def schema : Schema :=
  .choice [both.name, forward.name, backward.name]

def toDatum (d : Direction) : Datum :=
  .text d.name

def ofDatum (d : Datum) : Direction :=
  if d.toText = forward.name then forward
  else if d.toText = backward.name then backward
  else both

end Direction

namespace RunMode

def schema : Schema :=
  .choice [auto.name, manual.name, always.name]

def toDatum (m : RunMode) : Datum :=
  .text m.name

def ofDatum (d : Datum) : RunMode :=
  if d.toText = manual.name then manual
  else if d.toText = always.name then always
  else auto

end RunMode

namespace ProcessRange

def schema : Schema :=
  .record "ProcessRange" [.required "start_id" .number, .required "end_id" .number]

def toDatum (r : ProcessRange) : Datum :=
  .record [.number r.first, .number r.last]

def ofDatum : Datum → ProcessRange
  | .record [first, last] => ⟨first.toNumber, last.toNumber⟩
  | _ => ⟨0, 0⟩

end ProcessRange

namespace Gate

def Kind.schema : Schema :=
  .choice [Kind.io.name, Kind.device.name]

def Kind.toDatum (k : Kind) : Datum :=
  .text k.name

def Kind.ofDatum (d : Datum) : Kind :=
  if d.toText = Kind.device.name then .device else .io

def schema : Schema :=
  .record "IoDevicePrecondition"
    [.required "kind" Kind.schema, .optional "io_address" .text, .optional "device_address" .text,
     Polarity.field]

def toDatum (g : Gate) : Datum :=
  .record [g.kind.toDatum, .ofOption .text g.ioAddress, .ofOption .text g.deviceAddress,
    g.polarity.toDatum]

def ofDatum : Datum → Gate
  | .record [kind, ioAddress, deviceAddress, polarity] =>
    ⟨.ofDatum kind, ioAddress.toOption Datum.toText, deviceAddress.toOption Datum.toText,
      .ofDatum polarity⟩
  | _ => ⟨.io, none, none, .on⟩

end Gate

namespace IoPoint

def schema : Schema :=
  .record "IoOperand" [.required "index" .number, .required "address" .text, Polarity.field]

def toDatum (p : IoPoint) : Datum :=
  .record [.number p.index, .text p.address, p.polarity.toDatum]

def ofDatum : Datum → IoPoint
  | .record [index, address, polarity] => ⟨index.toNumber, address.toText, .ofDatum polarity⟩
  | _ => ⟨0, "", .on⟩

end IoPoint

namespace Condition

def schema : Schema :=
  .record "Condition"
    [.required "id" .number, .required "number" .number, .required "type" .number, Polarity.field,
     .optional "device" .text, .optional "interlock_number" .number, .optional "reference" .text,
     .defaulted "ios" (.list IoPoint.schema) .empty, .optional "comment1" .text,
     .optional "comment2" .text]

def toDatum (c : Condition) : Datum :=
  .record [.number c.id, .number c.number, .number c.kind.tag, c.polarity.toDatum,
    .ofOption .text c.device, .ofOption .number c.interlockNumber, .ofOption .text c.reference,
    .ofList IoPoint.toDatum c.ios, .ofOption .text c.comment1, .ofOption .text c.comment2]

def ofDatum : Datum → Condition
  | .record [id, number, kind, polarity, device, interlockNumber, reference, ios, comment1,
      comment2] =>
    { id := id.toNumber, number := number.toNumber, kind := .ofTag kind.toNumber,
      polarity := .ofDatum polarity, device := device.toOption Datum.toText,
      interlockNumber := interlockNumber.toOption Datum.toNumber,
      reference := reference.toOption Datum.toText, ios := ios.toList IoPoint.ofDatum,
      comment1 := comment1.toOption Datum.toText, comment2 := comment2.toOption Datum.toText }
  | _ => ⟨0, 0, .ofTag 0, .on, none, none, none, [], none, none⟩

end Condition

namespace Interlock

def schema : Schema :=
  .record "Interlock"
    [.required "id" .number, .required "sort_id" .number, .optional "name" .text,
     .defaulted "direction" Direction.schema Direction.both.toDatum,
     .optional "run_mode" RunMode.schema, .optional "process_range" ProcessRange.schema,
     .optional "io_device" Gate.schema,
     .defaulted "conditions" (.list Condition.schema) .empty]

def toDatum (i : Interlock) : Datum :=
  .record [.number i.id, .number i.sortId, .ofOption .text i.name, i.direction.toDatum,
    .ofOption RunMode.toDatum i.runMode, .ofOption ProcessRange.toDatum i.processRange,
    .ofOption Gate.toDatum i.gate, .ofList Condition.toDatum i.conditions]

def ofDatum : Datum → Interlock
  | .record [id, sortId, name, direction, runMode, processRange, gate, conditions] =>
    { id := id.toNumber, sortId := sortId.toNumber, name := name.toOption Datum.toText,
      direction := .ofDatum direction, runMode := runMode.toOption RunMode.ofDatum,
      processRange := processRange.toOption ProcessRange.ofDatum,
      gate := gate.toOption Gate.ofDatum, conditions := conditions.toList Condition.ofDatum }
  | _ => ⟨0, 0, none, .both, none, none, none, []⟩

end Interlock

namespace CylinderName

def schema : Schema :=
  .record "CylinderName"
    [.defaulted "prefix" .text (.text ""), .required "number" .text,
     .defaulted "suffix" .text (.text "")]

def toDatum (n : CylinderName) : Datum :=
  .record [.text n.lead, .text n.number, .text n.trail]

def ofDatum : Datum → CylinderName
  | .record [lead, number, trail] => ⟨lead.toText, number.toText, trail.toText⟩
  | _ => ⟨"", "", ""⟩

end CylinderName

namespace Cylinder

def schema : Schema :=
  .record "Cylinder"
    [.required "id" .number, .required "name" CylinderName.schema, .required "label" .text,
     .required "base" .number, .optional "plc_id" .number,
     .defaulted "interlocks" (.list Interlock.schema) .empty]

def toDatum (c : Cylinder) : Datum :=
  .record [.number c.id, c.name.toDatum, .text c.label, .number c.base, .ofOption .number c.plc,
    .ofList Interlock.toDatum c.interlocks]

def ofDatum : Datum → Cylinder
  | .record [id, name, label, base, plc, interlocks] =>
    { id := id.toNumber, name := .ofDatum name, label := label.toText, base := base.toNumber,
      plc := plc.toOption Datum.toNumber, interlocks := interlocks.toList Interlock.ofDatum }
  | _ => ⟨0, .ofDatum .absent, "", 0, none, []⟩

end Cylinder

namespace Sensor

def schema : Schema :=
  .record "SensorEntry"
    [.required "address" .text, .optional "alt_address" .text, .required "name" .text,
     .optional "plc_id" .number]

def toDatum (s : Sensor) : Datum :=
  .record [.text s.address, .ofOption .text s.altAddress, .text s.name, .ofOption .number s.plc]

def ofDatum : Datum → Sensor
  | .record [address, altAddress, name, plc] =>
    ⟨address.toText, altAddress.toOption Datum.toText, name.toText, plc.toOption Datum.toNumber⟩
  | _ => ⟨"", none, "", none⟩

end Sensor

namespace ProcessStep

def schema : Schema :=
  .record "ProcessDetail" [.required "id" .number, .defaulted "name" .text (.text "")]

def toDatum (s : ProcessStep) : Datum :=
  .record [.number s.id, .text s.name]

def ofDatum : Datum → ProcessStep
  | .record [id, name] => ⟨id.toNumber, name.toText⟩
  | _ => ⟨0, ""⟩

end ProcessStep

namespace Plant

def schema : Schema :=
  .record "GenerationInput"
    [.defaulted "cylinders" (.list Cylinder.schema) .empty,
     .defaulted "sensors" (.list Sensor.schema) .empty,
     .defaulted "process_details" (.list ProcessStep.schema) .empty]

def toDatum (p : Plant) : Datum :=
  .record [.ofList Cylinder.toDatum p.cylinders, .ofList Sensor.toDatum p.sensors,
    .ofList ProcessStep.toDatum p.processSteps]

def ofDatum : Datum → Plant
  | .record [cylinders, sensors, processSteps] =>
    ⟨cylinders.toList Cylinder.ofDatum, sensors.toList Sensor.ofDatum,
      processSteps.toList ProcessStep.ofDatum⟩
  | _ => empty

end Plant

end InterlockLadder
