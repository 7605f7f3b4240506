/-! Log records: what the program notes about its own work. -/

namespace InterlockLadder.Log

/-- The levels, from the most to the least important. -/
inductive Level where
  | error
  | warn
  | info
  | debug
  | trace
deriving DecidableEq, Repr

namespace Level

def name : Level → String
  | error => "ERROR"
  | warn => "WARN"
  | info => "INFO"
  | debug => "DEBUG"
  | trace => "TRACE"

/-- The rank of a level; a log that admits some rank admits all lower ones. -/
def rank : Level → Nat
  | error => 0
  | warn => 1
  | info => 2
  | debug => 3
  | trace => 4

/-- The level with the given rank. -/
def ofRank? (n : Nat) : Option Level :=
  [error, warn, info, debug, trace][n]?

end Level

/-- The parts of the program that write records. -/
inductive Source where
  | generation
  | precondition
  | sensorFamily
  | operandStack
  | validation
  | diagnostic
  | command
  | logging
deriving DecidableEq, Repr

/-- The name under which the records of a part are filed. -/
def Source.target : Source → String
  | .generation => "ilgen_codegen::compile"
  | .precondition => "ilgen_codegen::precondition"
  | .sensorFamily => "ilgen_codegen::family_inv"
  | .operandStack => "ilgen_analyzer::rule_operand_stack"
  | .validation => "ilgen_analyzer::stages"
  | .diagnostic => "ilgen_dsl::diagnostic"
  | .command => "ilgen_cli::cli"
  | .logging => "ilgen_cli::logger"

structure Record where
  level : Level
  source : Source
  message : String
deriving DecidableEq, Repr

/-- The line of a log: the time, the level and the source in brackets, then the message. -/
def Record.line (time : String) (record : Record) : String :=
  "[" ++ time ++ " " ++ record.level.name ++ " " ++ record.source.target ++ "] " ++ record.message

end InterlockLadder.Log
