import InterlockLadder.Check.Listing
import InterlockLadder.CommandLine.Host
import InterlockLadder.Document.Load
import InterlockLadder.Ladder.Generation

/-! The commands: checking the listings in some files, and generating the listing of a plant.

What they find is reported on the stream for errors: a headline with severity, code and message, and
a note about the place, behind which a line is left empty. -/

namespace InterlockLadder

/-! ## Reports -/

structure Report where
  severity : Severity
  code : String
  message : String
  note : String
deriving DecidableEq, Repr

namespace Report

/-- A critical diagnostic is an error, any other one a warning. -/
def ofDiagnostic (d : Diagnostic) : Report where
  severity := if d.critical then .error else .warning
  code := d.code
  message := d.description
  note := Text.trimRight ("in " ++ d.owner.kind.name ++ " " ++ toString d.owner.id.toNat ++ " " ++
    d.owner.name)

/-- The report on an issue of the listing in a file. -/
def ofIssue (path : String) (issue : Issue) : Report where
  severity := issue.severity
  code := issue.code
  message := issue.message
  note := Text.trimRight ("at " ++ path ++ " row " ++ toString issue.key.toNat ++ " step " ++
    issue.step ++ ": " ++ issue.opcode ++ " " ++ issue.operand)

/-- The lines of a note, the first of which bears a mark. -/
def noteLines : List String → String
  | [] => ""
  | line :: lines => " = " ++ line ++ "\n" ++ String.join (lines.map fun l => "   " ++ l ++ "\n")

def render (r : Report) : String :=
  r.severity.name ++ "[" ++ r.code ++ "]: " ++ r.message ++ "\n" ++ noteLines (Text.lines r.note) ++
    "\n"

end Report

/-! ## Commands -/

/-- Why a command fails. -/
inductive CommandError where
  /-- A path on the command line names nothing that can be looked at. -/
  | unreadablePath (path : String) (fault : PathFault)
  | unlistable (fault : PathFault)
  | notFileOrDirectory (path : String)
  | unreadableFile (path : String) (fault : PathFault)
  | notText (path : String)
  | malformed (cause : Malformed)
  | unwritableFile (path : String) (fault : PathFault)
  | unwritableLog (path : String) (fault : PathFault)
  | tooVerbose
  /-- The listings have this many errors. -/
  | errors (count : Nat)
  /-- The plant is beyond generation. -/
  | aborted (problems : Nat)
deriving DecidableEq, Repr

def CommandError.message : CommandError → String
  | unreadablePath path fault => "Unable to read " ++ path ++ ". " ++ fault.message
  | unlistable fault => fault.message
  | notFileOrDirectory path => "Not a file or directory: " ++ path
  | unreadableFile path fault => "Unable to read " ++ path ++ ": " ++ fault.message
  | notText path => "Unable to read " ++ path ++ ": stream did not contain valid UTF-8"
  | malformed cause => cause.message
  | unwritableFile path fault => "Unable to write file " ++ path ++ ". " ++ fault.message
  | unwritableLog path fault => "Unable to create log file " ++ path ++ ". " ++ fault.message
  | tooVerbose => "Don't be crazy with verbose"
  | errors count => "Number of errors: " ++ toString count
  | aborted problems => "Generation aborted. Number of problems: " ++ toString problems

namespace Command

variable {m : Type → Type} [Monad m] [Host m]

/-- A step of a command, which may fail. -/
abbrev Step (m : Type → Type) (α : Type) :=
  ExceptT CommandError m α

/-- Asks the host, and fails with the given cause if it refuses. -/
def ask {α : Type} (answer : m (Except PathFault α)) (cause : PathFault → CommandError) :
    Step m α := do
  match ← answer with
  | .ok a => return a
  | .error fault => throw (cause fault)

/-- Notes a record in the log. -/
def note (level : Log.Level) (message : String) : Step m Unit :=
  Host.note (m := m) ⟨level, .command, message⟩

/-- Loads the document in a file. -/
def loadFile {α : Type} (ofJson : String → Except Malformed α) (path : String) : Step m α := do
  match ← ask (Host.read (m := m) path) (.unreadableFile path) with
  | none => throw (.notText path)
  | some text =>
    match ofJson text with
    | .ok a => return a
    | .error cause => throw (.malformed cause)

/-- Whether a name has the extension `json`. The dot that starts a name starts no extension. -/
def isJsonName (name : String) : Bool :=
  5 < name.toList.length && ".json".toList.isSuffixOf name.toList

/-- The path of a name in a directory. -/
def join (directory name : String) : String :=
  if directory.toList.getLast? = some '/' then directory ++ name else directory ++ "/" ++ name

/-- The files that a path stands for: itself, or the documents in a directory in the order of their
names. -/
def filesOf (path : String) : Step m (List String) := do
  match ← ask (Host.kind (m := m) path) (.unreadablePath path) with
  | .directory =>
    let names ← ask (Host.names (m := m) path) .unlistable
    return ((names.filter isJsonName).mergeSort fun a b => a ≤ b).map (join path)
  | .file => return [path]
  | .other => throw (.notFileOrDirectory path)

/-- Checks the listing in a file, and counts its errors. -/
def checkFile (mark : String) (quiet : Bool) (path : String) : Step m Nat := do
  let rows ← loadFile Row.listOfJson path
  let issues := validate mark rows
  (validationRecords mark rows).forM fun r => Host.note (m := m) r
  note .debug ("Checked " ++ path ++ " with " ++ toString issues.length ++ " issues")
  unless quiet do
    issues.forM fun issue => Host.complain (m := m) (Report.ofIssue path issue).render
  return (issues.filter Issue.isError).length

/-- Checks the listings that the paths stand for. All paths are looked at before any file is
loaded. Warnings are reported but do not count. -/
def check (paths : List String) (mark : String) (quiet : Bool) : Step m Unit := do
  let files ← paths.mapM filesOf
  let errors ← files.flatten.foldlM (fun n path => return n + (← checkFile mark quiet path)) 0
  if 0 < errors then throw (.errors errors)
  Host.print (m := m) "OK\n"

/-- Reports a diagnostic, to the log if the command is quiet. -/
def report (quiet : Bool) (d : Diagnostic) : Step m Unit :=
  if quiet then Host.note (m := m) d.record
  else Host.complain (m := m) (Report.ofDiagnostic d).render

/-- Generates the listing of the plant in a file. It goes to the output file or is printed, unless
the plant is beyond generation. -/
def generate (model : String) (options output : Option String) (quiet : Bool) : Step m Unit := do
  let plant ← loadFile Plant.ofJson model
  let options ← match options with
    | some path => loadFile Options.ofJson path
    | none => pure Options.default
  note .info ("Generating " ++ toString plant.cylinders.length ++ " cylinders from " ++ model)
  let generation := plant.generate options
  generation.notes.forM fun r => Host.note (m := m) r
  let diagnostics := generation.diagnostics
  diagnostics.forM (report quiet)
  if diagnostics.any Diagnostic.critical then throw (.aborted diagnostics.length)
  let text := Row.listToJson .pretty generation.rows
  match output with
  | some path => ask (Host.write (m := m) path text) (.unwritableFile path)
  | none => unless quiet do Host.print (m := m) (text ++ "\n")
  note .debug ("Generated " ++ toString generation.rows.length ++ " rows with " ++
    toString diagnostics.length ++ " problems")

end Command

end InterlockLadder
