import InterlockLadder.Document.Schema
import InterlockLadder.Json.Numeral
import InterlockLadder.Json.Skip

/-! Reading a document by a schema, in one pass: the first fault in the order of the text is the
one reported.

A record may be written as an object or as an array of its fields in order. An object may hold its
fields in any order, each at most once, and other members besides, which are passed over. A field
that is left out takes its default. -/

namespace InterlockLadder

open Json
open Json.Scan (failAhead failHere peek peekToken skip)

namespace Reading

/-- Fails about the next value, which is not of the expected type. All but a list or record is read
before. -/
def mismatch {α : Type} (expected : Expected) : Scan α := do
  let fail (found : Found) : Scan α := failHere (.invalidType found expected)
  match ← peek with
  | some 'n' =>
    skip
    Scan.ident ['u', 'l', 'l']
    fail .null
  | some 't' =>
    skip
    Scan.ident ['r', 'u', 'e']
    fail (.boolean true)
  | some 'f' =>
    skip
    Scan.ident ['a', 'l', 's', 'e']
    fail (.boolean false)
  | some '-' =>
    skip
    fail (← Numeral.scan true).found
  | some '"' =>
    skip
    fail (.text (← Scan.text))
  | some '[' => fail .sequence
  | some '\x7b' => fail .map
  | some c => if c.isDigit then fail (← Numeral.scan false).found else failAhead .expectedValue
  | none => failAhead .expectedValue

/-- Fails unless there is a token; otherwise the result is its first character. -/
def token : Scan Char := do
  match ← peekToken with
  | some c => return c
  | none => failAhead .endOfValue

/-- The record number of a numeral. -/
def ofNumeral : Numeral → Scan UInt32
  | .real x => failHere (.invalidType (Numeral.real x).found .number)
  | .integer n =>
    if 0 ≤ n ∧ n < UInt32.size then return .ofNat n.toNat
    else failHere (.outOfRange n .number)

def number : Scan UInt32 := do
  let c ← token
  if c = '-' then
    skip
    ofNumeral (← Numeral.scan true)
  else if c.isDigit then ofNumeral (← Numeral.scan false)
  else mismatch .number

def text : Scan String := do
  if (← token) = '"' then
    skip
    Scan.text
  else mismatch .text

/-- Passes over `null`. -/
def null : Scan Unit := do
  skip
  Scan.ident ['u', 'l', 'l']

/-- The name of a variant, in front of whose quotation mark the reader is. -/
def variant (names : List String) : Scan String := do
  skip
  let name ← Scan.text
  if names.contains name then return name
  else failHere (.unknownVariant name names)

/-- The name of a variant as the key of an object. -/
def variantKey (names : List String) : Scan String := do
  match ← peekToken with
  | some '"' => variant names
  | some '\x7d' => failAhead .expectedValue
  | some _ => failAhead .keyMustBeText
  | none => failAhead .endOfObject

/-- One of the names, alone or as the only key of an object whose value is `null`. -/
def choice (names : List String) : Scan String := do
  match ← peekToken with
  | some '"' => variant names
  | some '\x7b' =>
    skip
    let name ← variantKey names
    Scan.colon
    if (← token) = 'n' then null else mismatch .unit
    match ← peekToken with
    | some '\x7d' =>
      skip
      return name
    | some _ => failHere .expectedValue
    | none => failHere .endOfObject
  | some _ => failAhead .expectedValue
  | none => failAhead .endOfValue

/-- Whether an array holds a further element, in front of which the reader then is. -/
def hasElement (first : Bool) : Scan Bool := do
  match ← peekToken with
  | none => failAhead .endOfList
  | some ']' => return false
  | some c =>
    if first then return true
    else if c = ',' then
      skip
      match ← peekToken with
      | some ']' => failAhead .trailingComma
      | some _ => return true
      | none => failAhead .endOfValue
    else failAhead .expectedCommaOrBracket

/-- The elements of an array up to its closing bracket. There are no more of them than characters
left. -/
def elements (item : Scan Datum) (first : Bool) : List Char → Scan (List Datum)
  | [] => failHere .endOfList
  | _ :: left => do
    if ← hasElement first then
      let d ← item
      return d :: (← elements item false left)
    else
      skip
      return []

def list (item : Scan Datum) : Scan Datum := do
  if (← token) = '[' then
    skip
    return .list (← elements item true (← get).rest)
  else mismatch .sequence

def optional (inner : Scan Datum) : Scan Datum := do
  if (← peekToken) = some 'n' then
    null
    return .absent
  else inner

/-- A field as a reader sees it. -/
structure Slot where
  name : String
  read : Scan Datum
  default : Option Datum

/-- Reads the closing bracket of an array that holds all fields. -/
def closeArray : Scan Unit := do
  match ← peekToken with
  | some ']' => skip
  | some ',' =>
    skip
    if (← peekToken) = some ']' then failAhead .trailingComma else failAhead .trailingCharacters
  | some _ => failAhead .trailingCharacters
  | none => failAhead .endOfList

/-- The values of the fields from an array. Of `total` fields, `done` are behind the reader. -/
def arrayValues (record : String) (total done : Nat) : List Slot → Scan (List Datum)
  | [] => do
    closeArray
    return []
  | slot :: slots => do
    let value ←
      if ← hasElement (done = 0) then slot.read
      else match slot.default with
        | some d => pure d
        | none =>
          skip
          failHere (.invalidLength done record total)
    return value :: (← arrayValues record total (done + 1) slots)

/-- Whether an object holds a further member, in front of whose key the reader then is. -/
def hasMember (first : Bool) : Scan Bool := do
  match ← peekToken with
  | none => failAhead .endOfObject
  | some '\x7d' => return false
  | some c =>
    if first then
      if c = '"' then return true else failAhead .keyMustBeText
    else if c = ',' then
      skip
      match ← peekToken with
      | some '"' => return true
      | some '\x7d' => failAhead .trailingComma
      | some _ => failAhead .keyMustBeText
      | none => failAhead .endOfValue
    else failAhead .expectedCommaOrBrace

/-- Fails about a field that occurs twice. If the object ends behind the second key, the end counts
as read. -/
def duplicate {α : Type} (name : String) : Scan α := do
  if (← peekToken) = some '\x7d' then skip
  failHere (.duplicateField name)

/-- The fields of an object up to its closing brace, by name, together with those already known.
There are no more of them than characters left. -/
def members (slots : List Slot) (first : Bool) (known : List (String × Datum)) :
    List Char → Scan (List (String × Datum))
  | [] => failHere .endOfObject
  | _ :: left => do
    if ← hasMember first then
      skip
      let key ← Scan.text
      match slots.find? (·.name = key) with
      | none =>
        Scan.colon
        Scan.passValue
        members slots false known left
      | some slot =>
        if (known.lookup key).isSome then duplicate key
        else
          Scan.colon
          let value ← slot.read
          members slots false ((key, value) :: known) left
    else
      skip
      return known

/-- The values of the fields in order, when their object has been read. -/
def memberValues (known : List (String × Datum)) : List Slot → Scan (List Datum)
  | [] => return []
  | slot :: slots => do
    match (known.lookup slot.name).or slot.default with
    | some value => return value :: (← memberValues known slots)
    | none => failHere (.missingField slot.name)

def record (name : String) (slots : List Slot) : Scan Datum := do
  match ← token with
  | '[' =>
    skip
    return .record (← arrayValues name slots.length 0 slots)
  | '\x7b' =>
    skip
    let known ← members slots true [] (← get).rest
    return .record (← memberValues known slots)
  | _ => mismatch (.record name)

end Reading

mutual

/-- Reads a value that fits the schema. -/
def Schema.read : Schema → Scan Datum
  | .number => Datum.number <$> Reading.number
  | .text => Datum.text <$> Reading.text
  | .choice names => Datum.text <$> Reading.choice names
  | .list item => Reading.list item.read
  | .optional inner => Reading.optional inner.read
  | .record name fields => Reading.record name (Field.slots fields)

def Field.slots : List Field → List Reading.Slot
  | [] => []
  | .mk name schema default _ :: fields => ⟨name, schema.read, default⟩ :: Field.slots fields

end

/-- Reads a whole document, behind which only gaps may follow. -/
def Schema.readDocument (s : Schema) : Scan Datum := do
  let d ← s.read
  match ← peekToken with
  | none => return d
  | some _ => failAhead .trailingCharacters

/-- The content of a text, or the first fault in it. -/
def Schema.load (s : Schema) (text : String) : Except Json.Failure Datum :=
  (s.readDocument.run ⟨text.toList, 0⟩).map (·.1)

end InterlockLadder
