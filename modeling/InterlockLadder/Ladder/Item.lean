import InterlockLadder.Diagnostic
import InterlockLadder.Row

/-! What a run puts out. The parts of a listing, before they have a place in it, are items: every
item takes a key, counted from 1, and only instructions take a step, counted from 0. The journal of
a run holds log records and diagnostics in the order in which they arise. -/

namespace InterlockLadder

/-! ## Items and their numbering -/

structure Instruction where
  opcode : Opcode
  /-- Empty for the instructions that take none. -/
  operand : String := ""
deriving DecidableEq, Repr

inductive Item where
  | statement (text : String)
  | instruction (i : Instruction)
deriving DecidableEq, Repr

namespace Item

def isInstruction : Item → Bool
  | statement _ => false
  | instruction _ => true

/-- How far the step counter advances behind the item. -/
def steps (item : Item) : UInt32 :=
  if item.isInstruction then 1 else 0

/-- The row of an item. A statement has no step, and an instruction no statement. -/
def row (key step : UInt32) : Item → Row
  | statement text => { key, statement := some text }
  | instruction i =>
    { key, step := toString step.toNat, opcode := i.opcode.mnemonic, operand := i.operand }

/-- The rows of the items when the first one takes the given key and step. -/
def numberFrom (key step : UInt32) : List Item → List Row
  | [] => []
  | item :: items => item.row key step :: numberFrom (key + 1) (step + item.steps) items

def number (items : List Item) : List Row :=
  numberFrom 1 0 items

@[simp] theorem length_numberFrom (key step : UInt32) (items : List Item) :
    (numberFrom key step items).length = items.length := by
  induction items generalizing key step with
  | nil => rfl
  | cons item items ih => simp [numberFrom, ih]

end Item

/-! ## The journal -/

inductive Entry where
  | note (record : Log.Record)
  | report (diagnostic : Diagnostic)
deriving DecidableEq, Repr

namespace Entry

def diagnostic? : Entry → Option Diagnostic
  | note _ => none
  | report d => some d

/-- The record of an entry in a log that takes no diagnostics. -/
def note? : Entry → Option Log.Record
  | note r => some r
  | report _ => none

/-- The record of an entry in a log that takes diagnostics too. -/
def record : Entry → Log.Record
  | note r => r
  | report d => d.record

def debug (message : String) : Entry :=
  note ⟨.debug, .generation, message⟩

def trace (source : Log.Source) (message : String) : Entry :=
  note ⟨.trace, source, message⟩

end Entry

end InterlockLadder
