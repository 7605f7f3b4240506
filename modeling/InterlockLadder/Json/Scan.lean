import InterlockLadder.Json.Fault

/-! Scanning: a text is read from left to right, and the first fault ends it. A fault about the
place reached is located behind the bytes read (`failHere`); a fault about the byte that comes next
counts that byte as well (`failAhead`), and so does one about a character just read. -/

namespace InterlockLadder.Json

/-- The characters not read yet, and the number of bytes read. -/
structure Cursor where
  rest : List Char
  offset : Nat
deriving DecidableEq, Repr

abbrev Scan (α : Type) :=
  StateT Cursor (Except Failure) α

/-- The characters that may stand between the tokens of a document. -/
def isGap (c : Char) : Bool :=
  c = ' ' || c = '\n' || c = '\t' || c = '\r'

namespace Scan

def failAt {α : Type} (offset : Nat) (fault : Fault) : Scan α :=
  throw ⟨fault, offset⟩

/-- Fails behind the bytes read. -/
def failHere {α : Type} (fault : Fault) : Scan α := do
  failAt (← get).offset fault

/-- Fails behind the next byte, or at the end of the text. -/
def failAhead {α : Type} (fault : Fault) : Scan α := do
  let cursor ← get
  failAt (if cursor.rest.isEmpty then cursor.offset else cursor.offset + 1) fault

/-- The next character, which stays unread. -/
def peek : Scan (Option Char) :=
  return (← get).rest.head?

/-- Reads one character, if there is one. -/
def skip : Scan Unit :=
  modify fun cursor =>
    match cursor.rest with
    | [] => cursor
    | c :: rest => ⟨rest, cursor.offset + c.utf8Size⟩

/-- Reads up to the next character that belongs to a token. -/
def skipGap : Scan Unit :=
  modify fun cursor =>
    ⟨cursor.rest.dropWhile isGap, cursor.offset + (cursor.rest.takeWhile isGap).length⟩

/-- The first character of the next token, which stays unread. -/
def peekToken : Scan (Option Char) := do
  skipGap
  peek

/-- Reads a run of decimal digits. -/
def digits : Scan (List Char) := do
  let cursor ← get
  let run := cursor.rest.takeWhile Char.isDigit
  set (⟨cursor.rest.dropWhile Char.isDigit, cursor.offset + run.length⟩ : Cursor)
  return run

/-- Reads the given letters, the rest of a literal name. -/
def ident : List Char → Scan Unit
  | [] => return ()
  | expected :: more => do
    match ← peek with
    | none => failHere .endOfValue
    | some c =>
      if c = expected then
        skip
        ident more
      else failAhead .expectedIdent

/-- Reads the colon behind a key. -/
def colon : Scan Unit := do
  match ← peekToken with
  | some ':' => skip
  | some _ => failAhead .expectedColon
  | none => failAhead .endOfObject

end Scan

end InterlockLadder.Json
