import InterlockLadder.Decimal.Shortest
import InterlockLadder.Json.Scan

/-! Numbers. An integer that fits into 64 bits is read exactly. Any other number is a double: its
significand takes as many digits as fit into 64 bits, is rounded once, and is scaled by a power of
ten. `-0` is a double, since no integer has a sign and no size. -/

namespace InterlockLadder.Json

inductive Numeral where
  | integer (n : Int)
  | real (x : Float)

/-- How a number is described where it is not expected. -/
def Numeral.found : Numeral → Found
  | integer n => .integer n
  | real x => .real (Decimal.floatText x)

namespace Numeral

/-- The greatest significand. -/
def maxSignificand : Nat := UInt64.size - 1

/-- The greatest exponent that is kept. -/
def maxExponent : Nat := 2147483647

/-- The greatest power of ten that is a double. -/
def maxPower : Nat := 308

def digitValue (c : Char) : Nat :=
  c.toNat - '0'.toNat

/-- Appends digits to a significand while it fits, and counts the digits left over. -/
def absorb (significand : Nat) : List Char → Nat × Nat
  | [] => (significand, 0)
  | d :: ds =>
    if maxSignificand < 10 * significand + digitValue d then (significand, ds.length + 1)
    else absorb (10 * significand + digitValue d) ds

/-- Appends digits to an exponent. If it grows too large, the result is the number of digits read
by then. -/
def exponentOf (read exponent : Nat) : List Char → Except Nat Nat
  | [] => .ok exponent
  | d :: ds =>
    if maxExponent < 10 * exponent + digitValue d then .error (read + 1)
    else exponentOf (read + 1) (10 * exponent + digitValue d) ds

def powerOfTen (n : Nat) : Float :=
  .ofScientific 1 false n

/-- Divides by a power of ten, in steps of the greatest one. -/
def scaleDown (x : Float) (n : Nat) : Float :=
  if n ≤ maxPower then x / powerOfTen n
  else if x == 0 then x
  else scaleDown (x / powerOfTen maxPower) (n - maxPower)
termination_by n
decreasing_by simp only [maxPower] at *; omega

/-- The double nearest to the significand, scaled; `none` if it is too large. -/
def scale? (significand : Nat) (exponent : Int) : Option Float :=
  let x := significand.toUInt64.toFloat
  if exponent < 0 then some (scaleDown x exponent.natAbs)
  else if exponent.natAbs ≤ maxPower then
    let scaled := x * powerOfTen exponent.natAbs
    if scaled.isInf then none else some scaled
  else if x == 0 then some x
  else none

def withSign (negative : Bool) (x : Float) : Numeral :=
  real (if negative then -x else x)

/-- The number with the given parts, when all of it has been read. -/
def ofParts (negative : Bool) (significand : Nat) (exponent : Int) : Scan Numeral :=
  match scale? significand exponent with
  | some x => return withSign negative x
  | none => Scan.failHere .numberOutOfRange

/-- Reads the exponent behind its letter, and scales. -/
def exponentPart (negative : Bool) (significand : Nat) (exponent : Int) : Scan Numeral := do
  let sign ← Scan.peek
  if sign = some '+' || sign = some '-' then Scan.skip
  let start := (← get).offset
  match ← Scan.digits with
  | [] =>
    match ← Scan.peek with
    | none => Scan.failHere .endOfValue
    | some _ => Scan.failAhead .invalidNumber
  | ds =>
    match exponentOf 0 0 ds with
    | .ok power =>
      ofParts negative significand
        (if sign = some '-' then exponent - power else exponent + power)
    | .error read =>
      if significand = 0 || sign = some '-' then return withSign negative 0
      else Scan.failAt (start + read) .numberOutOfRange

/-- Reads the exponent, if there is one. -/
def scaledPart (negative : Bool) (significand : Nat) (exponent : Int) : Scan Numeral := do
  let mark ← Scan.peek
  if mark = some 'e' || mark = some 'E' then
    Scan.skip
    exponentPart negative significand exponent
  else ofParts negative significand exponent

/-- Reads the fraction behind its point, and what follows. -/
def fractionPart (negative : Bool) (significand leftOver : Nat) : Scan Numeral := do
  match ← Scan.digits with
  | [] =>
    match ← Scan.peek with
    | none => Scan.failHere .endOfValue
    | some _ => Scan.failAhead .invalidNumber
  | ds =>
    let (significand, dropped) := absorb significand ds
    scaledPart negative significand (leftOver - (ds.length - dropped : Nat))

/-- The integer of a given sign and size, if it fits into 64 bits and is not `-0`. -/
def integer? (negative : Bool) (size : Nat) : Option Int :=
  if !negative then some size
  else if 0 < size && size ≤ UInt64.size / 2 then some (-size)
  else none

/-- Reads what follows the digits of the integer part. -/
def afterInteger (negative : Bool) (significand leftOver : Nat) : Scan Numeral := do
  match ← Scan.peek with
  | some '.' =>
    Scan.skip
    fractionPart negative significand leftOver
  | some 'e' | some 'E' => scaledPart negative significand leftOver
  | _ =>
    if 0 < leftOver then ofParts negative significand leftOver
    else match integer? negative significand with
      | some n => return integer n
      | none => return withSign negative significand.toUInt64.toFloat

/-- Reads a number behind its sign. -/
def scan (negative : Bool) : Scan Numeral := do
  match ← Scan.peek with
  | none => Scan.failHere .endOfValue
  | some '0' =>
    Scan.skip
    if (← Scan.peek).any Char.isDigit then Scan.failAhead .invalidNumber
    else afterInteger negative 0 0
  | some _ =>
    match ← Scan.digits with
    | [] => Scan.failAhead .invalidNumber
    | ds =>
      let (significand, leftOver) := absorb 0 ds
      afterInteger negative significand leftOver

end Numeral

end InterlockLadder.Json
