import InterlockLadder.Options

/-! The command line: `[-v]... [--log-file F]` and then one of `generate MODEL [--options F]
[-o F]`, `check [PATH]... [--literal-prefix P]` and `version`. `-h`, `--help` and `help [COMMAND]`
ask for help.

A value is attached to its option (`--output=F`, `-oF`, `-o=F`) or is the next argument, unless that
one looks like an option. An option with a value is given at most once, and a path is never empty.
Behind `--` no argument is an option. Arguments are read from left to right, and of a fault and a
request for help the first one decides. -/

namespace InterlockLadder

inductive Action where
  | generate (model : String) (options output : Option String)
  | check (paths : List String) (mark : String)
  | version
deriving DecidableEq, Repr

structure Invocation where
  verbosity : Nat
  logFile : Option String
  action : Action
deriving DecidableEq, Repr

namespace Invocation

/-- Why arguments ask for no action. -/
inductive Refusal where
  | misuse
  | help
deriving DecidableEq, Repr

/-- What an option does: it asks for help, it counts, or it takes a value. -/
inductive Role where
  | help
  | count
  | text
  | path
deriving DecidableEq, Repr

/-- An option: its long name, its letter, and what it does. -/
structure Known where
  long : String
  letter : Option Char
  role : Role
deriving DecidableEq, Repr

def Known.takesValue (o : Known) : Bool :=
  o.role = .text || o.role = .path

def helpOption : Known :=
  ⟨"help", some 'h', .help⟩

/-- What is known where arguments are read: the options, the number of words that are allowed, and
whether reading stops at the first word. -/
structure Grammar where
  options : List Known
  capacity : Option Nat
  stops : Bool := false
deriving Repr

/-- What the arguments have set so far. -/
structure Found where
  count : Nat := 0
  values : List (String × String) := []
  words : List String := []
deriving DecidableEq, Repr

namespace Found

def value? (f : Found) (name : String) : Option String :=
  f.values.lookup name

/-- Sets an option that takes no value. -/
def raise (f : Found) (o : Known) : Except Refusal Found :=
  if o.role = .help then .error .help else .ok { f with count := f.count + 1 }

/-- Gives an option its value. -/
def give (f : Found) (o : Known) (value : String) : Except Refusal Found :=
  if (f.value? o.long).isSome || (o.role = .path && value = "") then .error .misuse
  else .ok { f with values := (o.long, value) :: f.values }

/-- Adds a word, which is always a path. -/
def add (capacity : Option Nat) (f : Found) (word : String) : Except Refusal Found :=
  if word = "" || capacity = some f.words.length then .error .misuse
  else .ok { f with words := f.words ++ [word] }

end Found

/-- Whether an argument looks like an option: a dash with something behind it. -/
def isDashed (argument : List Char) : Bool :=
  argument.head? = some '-' && 1 < argument.length

/-- Reads a group of letters behind a dash. The rest of the group is the value of the first option
that takes one; without a rest the value is the next argument, and the result names the option that
waits for it. -/
def letters (known : List Known) (f : Found) : List Char → Except Refusal (Found × Option Known)
  | [] => .ok (f, none)
  | c :: cs =>
    match known.find? (·.letter = some c) with
    | none => .error .misuse
    | some option =>
      if option.takesValue then
        match cs with
        | [] => .ok (f, some option)
        | '=' :: attached => return (← f.give option (.ofList attached), none)
        | attached => return (← f.give option (.ofList attached), none)
      else do letters known (← f.raise option) cs

/-- Reads an option behind two dashes. The result names it if it waits for a value. -/
def longOption (known : List Known) (f : Found) (argument : List Char) :
    Except Refusal (Found × Option Known) :=
  match known.find? (·.long = .ofList (argument.takeWhile (· ≠ '='))) with
  | none => .error .misuse
  | some option =>
    match argument.dropWhile (· ≠ '='), option.takesValue with
    | [], true => .ok (f, some option)
    | [], false => return (← f.raise option, none)
    | _ :: attached, true => return (← f.give option (.ofList attached), none)
    | _ :: _, false => .error .misuse

/-- Reads arguments. Where reading stops at a word, the result holds it and what is behind it. -/
def collect (g : Grammar) (f : Found) : List String → Except Refusal (Found × List String)
  | [] => .ok (f, [])
  | argument :: more =>
    let characters := argument.toList
    if argument = "--" then do
      if g.stops then throw .misuse
      else return (← more.foldlM (Found.add g.capacity) f, [])
    else if isDashed characters then
      let read :=
        if characters.take 2 = ['-', '-'] then longOption g.options f (characters.drop 2)
        else letters g.options f (characters.drop 1)
      match read with
      | .error refusal => .error refusal
      | .ok (f, none) => collect g f more
      | .ok (f, some option) =>
        match more with
        | [] => .error .misuse
        | value :: more =>
          if isDashed value.toList then .error .misuse
          else do collect g (← f.give option value) more
    else if g.stops then .ok (f, argument :: more)
    else do collect g (← f.add g.capacity argument) more

def program : Grammar :=
  ⟨[⟨"verbose", some 'v', .count⟩, ⟨"log-file", none, .path⟩, helpOption], none, true⟩

def generateAction (arguments : List String) : Except Refusal Action := do
  let known := [⟨"options", none, .path⟩, ⟨"output", some 'o', .path⟩, helpOption]
  let (found, _) ← collect ⟨known, some 1, false⟩ {} arguments
  match found.words with
  | [model] => return .generate model (found.value? "options") (found.value? "output")
  | _ => throw .misuse

def checkAction (arguments : List String) : Except Refusal Action := do
  let known := [⟨"literal-prefix", none, .text⟩, helpOption]
  let (found, _) ← collect ⟨known, none, false⟩ {} arguments
  return .check found.words ((found.value? "literal-prefix").getD defaultLiteralMark)

def versionAction (arguments : List String) : Except Refusal Action := do
  let _ ← collect ⟨[helpOption], some 0, false⟩ {} arguments
  return .version

/-- There is help on the program and on each of its commands. -/
def helpOn : List String → Refusal
  | [] => .help
  | [topic] =>
    if ["generate", "check", "version", "help"].contains topic then .help else .misuse
  | _ => .misuse

/-- What the arguments ask for. -/
def parse (arguments : List String) : Except Refusal Invocation := do
  let (found, rest) ← collect program {} arguments
  let action ←
    match rest with
    | "generate" :: more => generateAction more
    | "check" :: more => checkAction more
    | "version" :: more => versionAction more
    | "help" :: more => throw (helpOn more)
    | _ => throw .misuse
  return ⟨found.count, found.value? "log-file", action⟩

end Invocation

end InterlockLadder
