import InterlockLadder.Json.Scan

/-! Texts in a document: their characters between double quotes, some of them escaped. An escape by
number gives 16 bits, so a character beyond U+FFFF takes a pair of them. -/

namespace InterlockLadder.Json

namespace Scan

def hexValue? (c : Char) : Option Nat :=
  if c.isDigit then some (c.toNat - '0'.toNat)
  else if 'a' ≤ c ∧ c ≤ 'f' then some (c.toNat - 'a'.toNat + 10)
  else if 'A' ≤ c ∧ c ≤ 'F' then some (c.toNat - 'A'.toNat + 10)
  else none

/-- The number written by four hexadecimal digits. -/
def hexValue4? : List Char → Option Nat
  | [a, b, c, d] => do
    let a ← hexValue? a
    let b ← hexValue? b
    let c ← hexValue? c
    let d ← hexValue? d
    return ((a * 16 + b) * 16 + c) * 16 + d
  | _ => none

/-- Reads the 16 bits of an escape. Four bytes are read before they are looked at. -/
def hexUnit : Scan Nat := do
  let cursor ← get
  let four := cursor.rest.take 4
  let bytes := (String.ofList four).utf8ByteSize
  match hexValue4? four with
  | some n =>
    set (⟨cursor.rest.drop 4, cursor.offset + 4⟩ : Cursor)
    return n
  | none =>
    if bytes < 4 then failAt (cursor.offset + bytes) .endOfText
    else failAt (cursor.offset + 4) .invalidEscape

def isHighSurrogate (n : Nat) : Bool :=
  0xD800 ≤ n && n ≤ 0xDBFF

def isLowSurrogate (n : Nat) : Bool :=
  0xDC00 ≤ n && n ≤ 0xDFFF

/-- Reads the given character, which has to follow a high surrogate. -/
def pairMark (expected : Char) : Scan Unit := do
  match ← peek with
  | none => failHere .endOfText
  | some c => if c = expected then skip else failAhead .unpairedSurrogate

/-- Reads the character of an escape by number. -/
def numberedChar : Scan Char := do
  let high ← hexUnit
  if isLowSurrogate high then failHere .loneSurrogate
  else if isHighSurrogate high then
    pairMark '\\'
    pairMark 'u'
    let low ← hexUnit
    if isLowSurrogate low then
      return .ofNat ((high - 0xD800) * 1024 + (low - 0xDC00) + 0x10000)
    else failHere .loneSurrogate
  else return .ofNat high

/-- The character that a letter behind a backslash stands for. -/
def shortEscape? : Char → Option Char
  | '"' => some '"'
  | '\\' => some '\\'
  | '/' => some '/'
  | 'b' => some '\x08'
  | 'f' => some '\x0c'
  | 'n' => some '\n'
  | 'r' => some '\r'
  | 't' => some '\t'
  | _ => none

/-- Reads an escape behind its backslash; `numbered` reads what follows the letter `u`. -/
def escape {α : Type} (short : Char → α) (numbered : Scan α) : Scan α := do
  match ← peek with
  | none => failHere .endOfText
  | some c =>
    match shortEscape? c with
    | some escaped =>
      skip
      return short escaped
    | none =>
      if c = 'u' then
        skip
        numbered
      else failAhead .invalidEscape

/-- Reads one character of a text, or its closing quote. -/
def textChar : Scan (Option Char) := do
  match ← peek with
  | none => failHere .endOfText
  | some '"' =>
    skip
    return none
  | some '\\' =>
    skip
    escape some (some <$> numberedChar)
  | some c =>
    if c.toNat < 0x20 then failAhead .controlCharacter
    else
      skip
      return some c

/-- Reads the rest of a text behind the characters in `read`, latest first. Every step takes at
least one of the characters that are left, so there are no more steps than those. -/
def textWithin (read : List Char) : List Char → Scan String
  | [] => failHere .endOfText
  | _ :: left => do
    match ← textChar with
    | none => return .ofList read.reverse
    | some c => textWithin (c :: read) left

/-- Reads a text behind its opening quote. -/
def text : Scan String := do
  textWithin [] (← get).rest

/-- Passes over one character of a text, or its closing quote; the result tells which. Surrogates
need no partner here. -/
def passChar : Scan Bool := do
  match ← peek with
  | none => failHere .endOfText
  | some '"' =>
    skip
    return false
  | some '\\' =>
    skip
    escape (fun _ => true) ((fun _ => true) <$> hexUnit)
  | some c =>
    if c.toNat < 0x20 then failHere .controlCharacter
    else
      skip
      return true

/-- Passes over the rest of a text, in no more steps than characters are left. -/
def passTextWithin : List Char → Scan Unit
  | [] => failHere .endOfText
  | _ :: left => do
    if ← passChar then passTextWithin left

/-- Passes over a text behind its opening quote. -/
def passText : Scan Unit := do
  passTextWithin (← get).rest

end Scan

end InterlockLadder.Json
