import InterlockLadder.Text.Quoted

/-! What can be wrong with a JSON document. A fault is about its syntax, about an end that comes
too early, or about data that do not fit the records to be read. -/

namespace InterlockLadder.Json

/-- A value that stands where another one is expected. -/
inductive Found where
  | null
  | boolean (b : Bool)
  | integer (n : Int)
  /-- A number with a fraction or an exponent, or one that is no 64-bit integer, by its text. -/
  | real (digits : String)
  | text (s : String)
  | sequence
  | map
deriving DecidableEq, Repr

namespace Found

def describe : Found → String
  | null => "null"
  | boolean b => "boolean `" ++ toString b ++ "`"
  | integer n => "integer `" ++ toString n ++ "`"
  | real digits => "floating point `" ++ digits ++ "`"
  | text s => "string " ++ Text.quoted s
  | sequence => "sequence"
  | map => "map"

end Found

/-- What is expected in some place. -/
inductive Expected where
  | number
  | text
  | sequence
  | record (name : String)
  | unit
deriving DecidableEq, Repr

namespace Expected

def describe : Expected → String
  | number => "u32"
  | text => "a string"
  | sequence => "a sequence"
  | record name => "struct " ++ name
  | unit => "unit"

end Expected

inductive Fault where
  | expectedValue
  | expectedIdent
  | expectedColon
  | expectedCommaOrBracket
  | expectedCommaOrBrace
  | keyMustBeText
  | trailingComma
  | trailingCharacters
  | invalidNumber
  | numberOutOfRange
  | invalidEscape
  | loneSurrogate
  | unpairedSurrogate
  | controlCharacter
  | endOfValue
  | endOfList
  | endOfObject
  | endOfText
  | invalidType (found : Found) (expected : Expected)
  | outOfRange (n : Int) (expected : Expected)
  /-- An array that holds only `length` of the `fields` fields of a record. -/
  | invalidLength (length : Nat) (record : String) (fields : Nat)
  | missingField (name : String)
  | duplicateField (name : String)
  | unknownVariant (name : String) (names : List String)
deriving DecidableEq, Repr

inductive Category where
  | syntactic
  | earlyEnd
  | data
deriving DecidableEq, Repr

namespace Fault

def category : Fault → Category
  | endOfValue | endOfList | endOfObject | endOfText => .earlyEnd
  | invalidType .. | outOfRange .. | invalidLength .. | missingField _ | duplicateField _
  | unknownVariant .. => .data
  | _ => .syntactic

/-- The choice between the given names in words. -/
def alternatives : List String → String
  | [] => "there are no variants"
  | [a] => "expected `" ++ a ++ "`"
  | [a, b] => "expected `" ++ a ++ "` or `" ++ b ++ "`"
  | names => "expected one of " ++ ", ".intercalate (names.map fun name => "`" ++ name ++ "`")

def message : Fault → String
  | expectedValue => "expected value"
  | expectedIdent => "expected ident"
  | expectedColon => "expected `:`"
  | expectedCommaOrBracket => "expected `,` or `]`"
  | expectedCommaOrBrace => "expected `,` or `\x7d`"
  | keyMustBeText => "key must be a string"
  | trailingComma => "trailing comma"
  | trailingCharacters => "trailing characters"
  | invalidNumber => "invalid number"
  | numberOutOfRange => "number out of range"
  | invalidEscape => "invalid escape"
  | loneSurrogate => "lone leading surrogate in hex escape"
  | unpairedSurrogate => "unexpected end of hex escape"
  | controlCharacter => "control character (\\u0000-\\u001F) found while parsing a string"
  | endOfValue => "EOF while parsing a value"
  | endOfList => "EOF while parsing a list"
  | endOfObject => "EOF while parsing an object"
  | endOfText => "EOF while parsing a string"
  | invalidType found expected =>
    "invalid type: " ++ found.describe ++ ", expected " ++ expected.describe
  | outOfRange n expected =>
    "invalid value: integer `" ++ toString n ++ "`, expected " ++ expected.describe
  | invalidLength length record fields =>
    "invalid length " ++ toString length ++ ", expected struct " ++ record ++ " with " ++
      toString fields ++ if fields = 1 then " element" else " elements"
  | missingField name => "missing field `" ++ name ++ "`"
  | duplicateField name => "duplicate field `" ++ name ++ "`"
  | unknownVariant name names => "unknown variant `" ++ name ++ "`, " ++ alternatives names

end Fault

/-- A fault and the number of bytes read when it is found. -/
structure Failure where
  fault : Fault
  offset : Nat
deriving DecidableEq, Repr

/-- A place in a text: a line counted from 1, and the bytes before the place on that line. -/
structure Position where
  line : Nat
  column : Nat
deriving DecidableEq, Repr

namespace Position

/-- The position behind the first `offset` bytes of the text that follows a position. -/
def advance (p : Position) (offset : Nat) : List Char → Position
  | [] => p
  | c :: cs =>
    if offset < c.utf8Size then { p with column := p.column + offset }
    else
      advance (if c = '\n' then ⟨p.line + 1, 0⟩ else { p with column := p.column + c.utf8Size })
        (offset - c.utf8Size) cs

def ofOffset (text : String) (offset : Nat) : Position :=
  advance ⟨1, 0⟩ offset text.toList

end Position

/-- The message of a failure in the given text, with its place. -/
def Failure.message (text : String) (f : Failure) : String :=
  let p := Position.ofOffset text f.offset
  f.fault.message ++ " at line " ++ toString p.line ++ " column " ++ toString p.column

end InterlockLadder.Json
