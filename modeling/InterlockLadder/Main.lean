import InterlockLadder.CommandLine.Program
import Std.Time.DateTime

/-! The command line program, run on the real file system and the standard streams. -/

namespace InterlockLadder

/-- A real system, together with the level of its log and the stream that takes the records. -/
abbrev Machine :=
  ReaderT (IO.Ref (Option (Log.Level × IO.FS.Stream))) IO

namespace Machine

def pathFault : IO.Error → PathFault
  | .noFileOrDirectory .. => .notFound
  | .inappropriateType _ 20 _ => .notDirectory
  | .inappropriateType _ 21 _ => .isDirectory
  | .invalidArgument _ 36 _ => .nameTooLong
  | .resourceExhausted _ 28 _ => .noSpace
  | .permissionDenied .. => .denied
  | e => .other (toString e)

/-- Runs an action and catches what the system refuses. -/
def attempt {α : Type} (action : IO α) : Machine (Except PathFault α) := do
  match ← action.toBaseIO with
  | .ok a => return .ok a
  | .error e => return .error (pathFault e)

def kind (path : String) : IO PathKind := do
  try
    match (← (← IO.FS.realPath path).metadata).type with
    | .dir => return .directory
    | .file => return .file
    | _ => return .other
  catch e =>
    -- What cannot be resolved cannot be opened, and that failure tells the cause.
    discard (IO.FS.Handle.mk path .read)
    throw e

def names (path : String) : IO (List String) := do
  return (← (← IO.FS.realPath path).readDir).toList.map fun entry => entry.fileName

/-- The digits of a number, filled up with zeros on the left. -/
def digits (width : Nat) (n : Int) : String :=
  let text := toString n
  String.ofList (List.replicate (width - text.length) '0') ++ text

/-- The digits behind the point of a number of nanoseconds, at least one. -/
def fraction (nanoseconds : Int) : String :=
  let shown := ((digits 9 nanoseconds).toList.reverse.dropWhile (· = '0')).reverse
  if shown.isEmpty then "0" else .ofList shown

/-- The date and the time of day in the universal time zone. -/
def now : IO String := do
  let stamp := Std.Time.PlainDateTime.ofWallTime <|
    (← Std.Time.Timestamp.now).toWallTime Std.Time.TimeZone.Offset.zero
  let date := digits 4 stamp.date.year ++ "-" ++ digits 2 stamp.date.month.val ++ "-" ++
    digits 2 stamp.date.day.val
  let time := digits 1 stamp.time.hour.val ++ ":" ++ digits 2 stamp.time.minute.val ++ ":" ++
    digits 2 stamp.time.second.val ++ "." ++ fraction stamp.time.nanosecond.val
  return date ++ " " ++ time ++ " +00:00:00"

/-- Makes the file hold exactly the text. -/
def write (path text : String) : IO Unit := do
  let handle ← IO.FS.Handle.mk path .write
  handle.putStr text
  handle.flush

/-- Writes a record to the log. A stream that does not take it is no reason to stop. -/
def note (r : Log.Record) (level : Log.Level) (stream : IO.FS.Stream) : IO Unit := do
  if r.level.rank ≤ level.rank then
    let line := r.line (← now)
    discard (stream.putStrLn line *> stream.flush).toBaseIO

/-- The stream for log records. A log file is emptied first. -/
def logStream : Option String → IO IO.FS.Stream
  | none => IO.getStderr
  | some path => return .ofHandle (← IO.FS.Handle.mk path .write)

instance : Host Machine where
  kind path := attempt (kind path)
  names path := attempt (names path)
  read path := attempt do return String.fromUTF8? (← IO.FS.readBinFile path)
  write path text := attempt (write path text)
  print text := IO.print text
  complain text := IO.eprint text
  note r := do
    if let some (level, stream) := ← (← read).get then note r level stream
  startLogging l := do
    let logging ← read
    attempt do logging.set (some (l.level, ← logStream l.file))

end Machine

end InterlockLadder

/-- Runs the program with the arguments of the process. -/
def main (arguments : List String) : IO UInt32 := do
  let logging ← IO.mkRef none
  (InterlockLadder.Program.run (m := InterlockLadder.Machine) arguments).run logging
