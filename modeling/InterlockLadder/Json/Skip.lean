import InterlockLadder.Json.Quotation

/-! Passing over a value that no record asks for. It has to be well formed, but the size of its
numbers does not matter, and brackets nest to any depth: those still open are kept in a list, so
that no depth of recursion grows with them. -/

namespace InterlockLadder.Json

inductive Bracket where
  | square
  | curly
deriving DecidableEq, Repr

namespace Bracket

def closer : Bracket → Char
  | square => ']'
  | curly => '\x7d'

def earlyEnd : Bracket → Fault
  | square => .endOfList
  | curly => .endOfObject

/-- What is wrong about a character behind an element that neither goes on nor closes. -/
def expected : Bracket → Fault
  | square => .expectedCommaOrBracket
  | curly => .expectedCommaOrBrace

end Bracket

namespace Scan

/-- Passes over at least one digit. -/
def passDigits : Scan Unit := do
  if (← digits).isEmpty then failAhead .invalidNumber

/-- Passes over an exponent, if there is one. -/
def passExponent : Scan Unit := do
  let mark ← peek
  if mark = some 'e' || mark = some 'E' then
    skip
    let sign ← peek
    if sign = some '+' || sign = some '-' then skip
    passDigits

/-- Passes over a number behind its sign. -/
def passNumber : Scan Unit := do
  if (← peek) = some '0' then
    skip
    if (← peek).any Char.isDigit then failAhead .invalidNumber
  else passDigits
  if (← peek) = some '.' then
    skip
    passDigits
  passExponent

/-- Passes over a key with its colon, if the bracket is one that has keys. -/
def passKey : Bracket → Scan Unit
  | .square => return ()
  | .curly => do
    match ← peekToken with
    | some '"' =>
      skip
      passText
      colon
    | some _ => failAhead .keyMustBeText
    | none => failAhead .endOfObject

/-- Passes over a value without brackets, or over the bracket with which a value starts. The result
is the brackets then open, and whether a value has just ended. -/
def enter (stack : List Bracket) : Scan (Bool × List Bracket) := do
  match ← peekToken with
  | none => failAhead .endOfValue
  | some 'n' =>
    skip
    ident ['u', 'l', 'l']
    return (true, stack)
  | some 't' =>
    skip
    ident ['r', 'u', 'e']
    return (true, stack)
  | some 'f' =>
    skip
    ident ['a', 'l', 's', 'e']
    return (true, stack)
  | some '"' =>
    skip
    passText
    return (true, stack)
  | some '-' =>
    skip
    passNumber
    return (true, stack)
  | some '[' =>
    skip
    return (false, .square :: stack)
  | some '\x7b' =>
    skip
    return (false, .curly :: stack)
  | some c =>
    if c.isDigit then
      passNumber
      return (true, stack)
    else failAhead .expectedValue

/-- Passes over the rest of the open brackets, in no more steps than characters are left. -/
def leave : List Char → Bool → List Bracket → Scan Unit
  | _, _, [] => return ()
  | [], _, bracket :: _ => failHere bracket.earlyEnd
  | _ :: left, ended, bracket :: outer => do
    match ← peekToken with
    | none => failAhead bracket.earlyEnd
    | some c =>
      if ended && c = ',' then
        skip
        passKey bracket
        let (ended, stack) ← enter (bracket :: outer)
        leave left ended stack
      else if c = bracket.closer then
        skip
        leave left true outer
      else if ended then failAhead bracket.expected
      else
        passKey bracket
        let (ended, stack) ← enter (bracket :: outer)
        leave left ended stack

/-- Passes over one value. -/
def passValue : Scan Unit := do
  let (ended, stack) ← enter []
  leave (← get).rest ended stack

end Scan

end InterlockLadder.Json
