import InterlockLadder.Log

/-! What a command asks of the system it runs on: to look at files, to write them, and to take what
it prints and logs. -/

namespace InterlockLadder

/-- Why the system refuses a path. -/
inductive PathFault where
  | notFound
  | notDirectory
  | isDirectory
  | nameTooLong
  | noSpace
  | denied
  | zeroByte
  /-- Any other reason, in the system's words. -/
  | other (text : String)
deriving DecidableEq, Repr

def PathFault.message : PathFault → String
  | notFound => "No such file or directory (os error 2)"
  | notDirectory => "Not a directory (os error 20)"
  | isDirectory => "Is a directory (os error 21)"
  | nameTooLong => "File name too long (os error 36)"
  | noSpace => "No space left on device (os error 28)"
  | denied => "Permission denied (os error 13)"
  | zeroByte => "file name contained an unexpected NUL byte"
  | other text => text

inductive PathKind where
  | file
  | directory
  | other
deriving DecidableEq, Repr

/-- Where log records go, and down to which level. -/
structure Logging where
  level : Log.Level
  /-- The log file; without one, records are printed beside the errors. -/
  file : Option String
deriving DecidableEq, Repr

/-- A system on which a command can run. -/
class Host (m : Type → Type) where
  kind : String → m (Except PathFault PathKind)
  /-- The names in a directory, in no particular order. -/
  names : String → m (Except PathFault (List String))
  /-- The text of a file, or `none` if its bytes are no text. -/
  read : String → m (Except PathFault (Option String))
  /-- Makes the file hold exactly the text. -/
  write : String → String → m (Except PathFault Unit)
  print : String → m Unit
  /-- Prints to the stream for errors. -/
  complain : String → m Unit
  note : Log.Record → m Unit
  /-- Sends the records from here on where they belong. A log file is emptied first. -/
  startLogging : Logging → m (Except PathFault Unit)

end InterlockLadder
