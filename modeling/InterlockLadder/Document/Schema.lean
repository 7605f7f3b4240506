import InterlockLadder.Json.Tree

/-! Schemas: what a document may hold, and the data that one holds. A record lists its fields in
the order in which they are declared; a field that has a default may be left out. -/

namespace InterlockLadder

/-- The content of a document that fits a schema. -/
inductive Datum where
  | number (n : UInt32)
  /-- A text, or the name of a variant. -/
  | text (s : String)
  /-- An optional value that is not there. -/
  | absent
  | list (items : List Datum)
  /-- The values of the fields of a record, in the order of the fields. -/
  | record (values : List Datum)

mutual

inductive Schema where
  | number
  | text
  | list (item : Schema)
  | optional (inner : Schema)
  /-- One of some names. -/
  | choice (names : List String)
  | record (name : String) (fields : List Field)

/-- A field with its name, its schema and its default. One with `omitted` is not written when it
is absent. -/
inductive Field where
  | mk (name : String) (schema : Schema) (default : Option Datum) (omitted : Bool)

end

namespace Field

def required (name : String) (schema : Schema) : Field :=
  mk name schema none false

def defaulted (name : String) (schema : Schema) (default : Datum) : Field :=
  mk name schema (some default) false

/-- A field that may be absent. -/
def optional (name : String) (schema : Schema) : Field :=
  mk name (.optional schema) (some .absent) false

/-- A field that may be absent and is then not written. -/
def omittable (name : String) (schema : Schema) : Field :=
  mk name (.optional schema) (some .absent) true

end Field

namespace Datum

def isAbsent : Datum → Bool
  | absent => true
  | _ => false

def toNumber : Datum → UInt32
  | number n => n
  | _ => 0

def toText : Datum → String
  | text s => s
  | _ => ""

def toList {α : Type} (f : Datum → α) : Datum → List α
  | list items => items.map f
  | _ => []

def toOption {α : Type} (f : Datum → α) : Datum → Option α
  | absent => none
  | d => some (f d)

def ofList {α : Type} (f : α → Datum) (l : List α) : Datum :=
  list (l.map f)

def ofOption {α : Type} (f : α → Datum) : Option α → Datum
  | none => absent
  | some a => f a

/-- The list without items. -/
def empty : Datum :=
  list []

end Datum

open Json

mutual

/-- The document of a datum that fits the schema. -/
def Schema.write : Schema → Datum → Tree
  | .number, .number n => .number n.toNat
  | .text, .text s => .text s
  | .choice _, .text s => .text s
  | .list item, .list items => .list (items.map fun d => item.write d)
  | .optional inner, d => if d.isAbsent then .null else inner.write d
  | .record _ fields, .record values => .object (Field.writeAll fields values)
  | _, _ => .null

/-- The members of a record whose fields have the given values. -/
def Field.writeAll : List Field → List Datum → List (String × Tree)
  | .mk name schema _ omitted :: fields, value :: values =>
    if omitted && value.isAbsent then Field.writeAll fields values
    else (name, schema.write value) :: Field.writeAll fields values
  | _, _ => []

end

end InterlockLadder
