import InterlockLadder.Check.Issue
import InterlockLadder.Log

/-! Validation of a listing: first the issues with its expressions, then its double coils.

The condition expression is followed row by row: whether one is open, and how many of its branches
wait to be combined. A load within an expression starts a branch, a block instruction ends one, and
a comment or separator closes the expression. `Expression.next` is the state behind a row and
`Expression.issues` what is wrong about the row in the state before it. Only the second knows how
literals are marked.

A device that is the target of two `OUT` instructions has the value of whichever runs last. Devices
are the same when their texts agree up to blanks around them and the case of letters. -/

namespace InterlockLadder

/-! ## Expressions -/

/-- The part that a row plays in a listing. -/
inductive Row.Role where
  | comment
  /-- A row without instruction and statement, possibly a parameter of the instruction before. -/
  | filler
  /-- An instruction, with its family if it is a known one. -/
  | instruction (family : Option Opcode.Family)
deriving DecidableEq, Repr

namespace Row

def role (row : Row) : Row.Role :=
  if !row.hasBlankOpcode then .instruction (row.opcode?.map Opcode.family)
  else if row.hasStatement then .comment
  else .filler

/-- Whether the operand, without the blanks around it, starts with the mark of literals. -/
def isLiteral (mark : String) (row : Row) : Bool :=
  mark.toList.isPrefixOf (Text.trim row.operand).toList

end Row

structure Expression where
  isOpen : Bool := false
  /-- The branches started and not yet combined. -/
  branches : Nat := 0
  /-- The latest instruction. -/
  last : Option Row := none
deriving DecidableEq, Repr

namespace Expression

/-- Ends the expression. The latest instruction is still remembered. -/
def close (e : Expression) : Expression :=
  { e with isOpen := false, branches := 0 }

/-- The effect of an instruction on the expression. -/
def act (e : Expression) : Option Opcode.Family → Expression
  | some (.load _) =>
    { e with isOpen := true, branches := if e.isOpen then e.branches + 1 else e.branches }
  | some .block => { e with branches := e.branches - 1 }
  | some .separator => e.close
  | some .logic | some .consume | some .call | some .noop | none => e

/-- The expression behind a row. -/
def next (e : Expression) (row : Row) : Expression :=
  match row.role with
  | .comment => e.close
  | .filler => e
  | .instruction family => { e with last := some row }.act family

/-- The expression behind some rows. -/
def after (e : Expression) (rows : List Row) : Expression :=
  rows.foldl next e

def operandIssues (row : Row) : List Issue :=
  if row.hasBlankOperand then [.error row .missingOperand] else []

/-- What is wrong about an instruction in front of which the expression is `e`. -/
def instructionIssues (e : Expression) (row : Row) : Option Opcode.Family → List Issue
  | some (.load _) => operandIssues row
  | some .logic =>
    (if e.isOpen then [] else [.error row .opcodeBeforeLoad]) ++ operandIssues row
  | some .block =>
    (if e.isOpen then [] else [.error row .opcodeBeforeLoad]) ++
      if e.branches = 0 then [.error row .blockWithoutBranch] else []
  | some .call =>
    if e.isOpen || 0 < e.branches then
      [(Issue.warning row .conditionalCall).detail "consider an unconditional separator"]
    else []
  | some .consume =>
    (if !e.isOpen && e.branches = 0 then [.error row .noConditionExpression] else []) ++
      operandIssues row
  | some .separator | some .noop => []
  | none => [.warning row .unclassifiedInstruction]

/-- What is wrong about a row in front of which the expression is `e`. -/
def issues (mark : String) (e : Expression) (row : Row) : List Issue :=
  match row.role with
  | .comment => []
  | .filler =>
    if e.last.isNone && row.isLiteral mark then [.warning row .parameterWithoutInstruction] else []
  | .instruction family => e.instructionIssues row family

/-- What is wrong about the rows that follow. -/
def rowIssues (mark : String) (e : Expression) : List Row → List Issue
  | [] => []
  | row :: rows => e.issues mark row ++ (e.next row).rowIssues mark rows

/-- What is wrong when the listing ends here. -/
def endIssues (e : Expression) : List Issue :=
  if e.branches = 0 then []
  else match e.last with
    | none => []
    | some row =>
      [(Issue.warning row .unresolvedBranches).detail
        (toString e.branches ++ " unresolved branches")]

/-- The issues of a listing with its expressions. -/
def listingIssues (mark : String) (rows : List Row) : List Issue :=
  rowIssues mark {} rows ++ (after {} rows).endIssues

/-- The record of the expression behind an instruction. -/
def record (e : Expression) (row : Row) : Log.Record :=
  ⟨.trace, .operandStack, "Row " ++ toString row.key.toNat ++ " " ++ row.opcode ++
    " leaves expression=" ++ toString e.isOpen ++ " branches=" ++ toString e.branches⟩

/-- The records of the rows that follow, one for each instruction. -/
def records (e : Expression) : List Row → List Log.Record
  | [] => []
  | row :: rows =>
    let behind := e.next row
    if row.hasBlankOpcode then behind.records rows
    else behind.record row :: behind.records rows

end Expression

/-! ## Double coils -/

namespace DoubleCoil

/-- The device that a row sets with `OUT`, normalised. -/
def device? (row : Row) : Option String :=
  if row.opcode? = some .out && !row.hasBlankOperand then
    some (Text.upper (Text.trim row.operand))
  else none

def issue (row : Row) : Issue :=
  (Issue.warning row .duplicateOutput).detail ("device " ++ Text.trim row.operand)

/-- The issues of the rows that follow when the devices in `seen` are already set. -/
def issuesFrom (seen : List String) : List Row → List Issue
  | [] => []
  | row :: rows =>
    match device? row with
    | none => issuesFrom seen rows
    | some device =>
      if device ∈ seen then issue row :: issuesFrom seen rows
      else issuesFrom (device :: seen) rows

def issues (rows : List Row) : List Issue :=
  issuesFrom [] rows

end DoubleCoil

/-! ## Listings -/

/-- The issues of a listing whose literals bear the given mark. -/
def validate (mark : String) (rows : List Row) : List Issue :=
  Expression.listingIssues mark rows ++ DoubleCoil.issues rows

/-- What validation writes to the log. -/
def validationRecords (mark : String) (rows : List Row) : List Log.Record :=
  Expression.records {} rows ++
    [⟨.debug, .validation, "Validated " ++ toString rows.length ++ " rows with " ++
      toString (validate mark rows).length ++ " issues"⟩]

end InterlockLadder
