import InterlockLadder.CommandLine.FileTree

/-! A host as a value: the files on which commands work, and all that they have printed and
logged. -/

namespace InterlockLadder

/-- What happens to log records. -/
inductive Workspace.Sink where
  /-- They are kept, whatever their level. -/
  | keep
  /-- Those down to a level are printed beside the errors. -/
  | stream (level : Log.Level)
  /-- Those down to a level are added to the file at a place. -/
  | file (level : Log.Level) (place : FileTree.Place)

structure Workspace where
  files : FileTree
  /-- What the clock shows. -/
  time : String
  stdout : String := ""
  stderr : String := ""
  records : List Log.Record := []
  logging : Workspace.Sink := .keep

namespace Workspace

/-- Prints text on the stream at a place, if there is one. -/
def printAt? (w : Workspace) (p : FileTree.Place) (text : String) : Option Workspace :=
  match w.files.node? p with
  | some (.device .stdout) => some { w with stdout := w.stdout ++ text }
  | some (.device .stderr) => some { w with stderr := w.stderr ++ text }
  | _ => none

/-- Makes the file at a place hold exactly the text. -/
def writeAt (w : Workspace) (p : FileTree.Place) (text : String) : Except PathFault Workspace :=
  match w.printAt? p text with
  | some w => .ok w
  | none => (w.files.writeAt p text).map fun files => { w with files }

def write (w : Workspace) (path text : String) : Except PathFault Workspace := do
  w.writeAt (← w.files.target path) text

/-- Adds text at the end of the file at a place. -/
def appendAt (w : Workspace) (p : FileTree.Place) (text : String) : Workspace :=
  (w.printAt? p text).getD { w with files := w.files.appendAt p text }

def note (w : Workspace) (r : Log.Record) : Workspace :=
  let line := r.line w.time ++ "\n"
  match w.logging with
  | .keep => { w with records := w.records ++ [r] }
  | .stream level => if r.level.rank ≤ level.rank then { w with stderr := w.stderr ++ line } else w
  | .file level place => if r.level.rank ≤ level.rank then w.appendAt place line else w

/-- Empties the log file, if there is one, and sends records there. -/
def startLogging (w : Workspace) (l : Logging) : Except PathFault Workspace :=
  match l.file with
  | none => return { w with logging := .stream l.level }
  | some path => do
    let place ← w.files.target path
    return { ← w.writeAt place "" with logging := .file l.level place }

/-- Runs a change that may fail, and then changes nothing. -/
def change (f : Workspace → Except PathFault Workspace) :
    StateM Workspace (Except PathFault Unit) := fun w =>
  match f w with
  | .ok w => (.ok (), w)
  | .error fault => (.error fault, w)

instance : Host (StateM Workspace) where
  kind path := return (← get).files.kind path
  names path := return (← get).files.names path
  read path := return (← get).files.read path
  write path text := change (write · path text)
  print text := modify fun w => { w with stdout := w.stdout ++ text }
  complain text := modify fun w => { w with stderr := w.stderr ++ text }
  note r := modify (note · r)
  startLogging l := change (startLogging · l)

end Workspace

end InterlockLadder
