import InterlockLadder.Problem
import InterlockLadder.Row

/-! Issues: what is wrong or suspicious about one row of a listing. An issue copies what identifies
the row, so it can be reported without the listing. -/

namespace InterlockLadder

inductive Severity where
  /-- The target would reject the listing or misbehave on it. -/
  | error
  /-- The pattern is suspicious but not certainly wrong. -/
  | warning
deriving DecidableEq, Repr

def Severity.name : Severity → String
  | error => "error"
  | warning => "warning"

structure Issue where
  key : UInt32
  step : String
  opcode : String
  operand : String
  severity : Severity
  problem : Problem
  /-- Remarks that follow the message, each in parentheses. -/
  details : List String := []
deriving DecidableEq, Repr

namespace Issue

/-- An issue about the given row. -/
def ofRow (row : Row) (severity : Severity) (problem : Problem) : Issue :=
  { key := row.key, step := row.step, opcode := row.opcode, operand := row.operand, severity,
    problem }

def error (row : Row) (problem : Problem) : Issue :=
  ofRow row .error problem

def warning (row : Row) (problem : Problem) : Issue :=
  ofRow row .warning problem

def detail (issue : Issue) (text : String) : Issue :=
  { issue with details := issue.details ++ [text] }

def isError (issue : Issue) : Bool :=
  issue.severity = .error

def code (issue : Issue) : String :=
  issue.problem.code

/-- The message of the problem, after the instruction if there is one, and before the details. -/
def message (issue : Issue) : String :=
  let head :=
    if Text.isBlank issue.opcode then issue.problem.message
    else Text.upper (Text.trim issue.opcode) ++ ": " ++ issue.problem.message
  issue.details.foldl (fun text detail => text ++ " (" ++ detail ++ ")") head

def display (issue : Issue) : String :=
  issue.severity.name ++ " " ++ issue.code ++ ": row " ++ toString issue.key.toNat ++ " step " ++
    issue.step ++ ": " ++ issue.message

end Issue

end InterlockLadder
