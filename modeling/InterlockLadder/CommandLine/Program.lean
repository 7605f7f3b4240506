import InterlockLadder.CommandLine.Arguments
import InterlockLadder.CommandLine.Command
import InterlockLadder.CommandLine.Workspace

/-! The program: from its arguments to its exit code. -/

namespace InterlockLadder.Program

def version : String :=
  "0.12.0"

def usage : String :=
  "Usage: ilgen [-v]... [--log-file FILE] COMMAND\n\n" ++
  "Commands:\n" ++
  "  generate MODEL [--options FILE] [-o FILE]   generate the rows of a condition model\n" ++
  "  check [PATH]... [--literal-prefix PREFIX]   validate rows\n" ++
  "  version                                     print the version number\n"

/-- The exit code of a call that makes no sense. -/
def misuse : UInt32 := 2

variable {m : Type → Type} [Monad m] [Host m]

/-- Opens the log at the level that the verbosity asks for. -/
def configureLog (verbosity : Nat) (file : Option String) : Command.Step m Unit := do
  match Log.Level.ofRank? verbosity with
  | none => throw .tooVerbose
  | some level =>
    Command.ask (Host.startLogging (m := m) ⟨level, file⟩) (.unwritableLog (file.getD ""))
    Host.note (m := m) ⟨.trace, .logging, "Logger verbosity TRACE"⟩

def perform : Action → Command.Step m Unit
  | .generate model options output => Command.generate model options output false
  | .check paths mark => Command.check paths mark false
  | .version => Host.print (m := m) ("ilgen version " ++ version ++ "\n")

/-- Runs the program. Its errors are printed in quotes. -/
def run (arguments : List String) : m UInt32 := do
  match Invocation.parse arguments with
  | .error .misuse =>
    Host.complain usage
    return misuse
  | .error .help =>
    Host.print usage
    return 0
  | .ok i =>
    let outcome ← ExceptT.run do
      configureLog i.verbosity i.logFile
      perform i.action
    match outcome with
    | .ok () => return 0
    | .error e =>
      Host.complain ("Error: " ++ Text.quoted e.message ++ "\n")
      return 1

end InterlockLadder.Program
