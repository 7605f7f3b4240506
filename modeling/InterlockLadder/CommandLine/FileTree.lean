import InterlockLadder.CommandLine.Host

/-! A file system as a value: the nodes of a tree, each at its list of names from the root. Relative
paths start in a working directory. -/

namespace InterlockLadder

/-- A device holds nothing to be read. -/
inductive FileTree.Device where
  /-- Swallows what is written. -/
  | null
  /-- Has no room for anything. -/
  | full
  /-- The streams to which a program prints. -/
  | stdout
  | stderr
deriving DecidableEq, Repr

inductive FileTree.Node where
  | text (content : String)
  /-- A file whose bytes are no text. -/
  | binary
  | device (d : Device)
  | directory
deriving DecidableEq, Repr

/-- A place in the tree: the names from the root down. -/
abbrev FileTree.Place :=
  List String

structure FileTree where
  nodes : List (FileTree.Place × FileTree.Node)
  home : FileTree.Place
deriving Repr

namespace FileTree

def node? (t : FileTree) (p : Place) : Option Node :=
  t.nodes.lookup p

def isDirectory (t : FileTree) (p : Place) : Bool :=
  t.node? p = some .directory

/-- Replaces or adds the node at a place. -/
def put (t : FileTree) (p : Place) (n : Node) : FileTree :=
  { t with nodes := (p, n) :: t.nodes.filter (·.1 ≠ p) }

/-- The parts of a path between its slashes. -/
def parts (path : String) : List String :=
  go [] path.toList
where
  /-- Splits the characters behind those in `part`, latest first. -/
  go (part : List Char) : List Char → List String
    | [] => [.ofList part.reverse]
    | c :: cs => if c = '/' then .ofList part.reverse :: go [] cs else go (c :: part) cs

/-- Follows the parts of a path from a place. Whatever is passed through has to be a directory. -/
def follow (t : FileTree) (p : Place) : List String → Except PathFault Place
  | [] => .ok p
  | part :: more =>
    if !t.isDirectory p then .error .notDirectory
    else if part = "" || part = "." then t.follow p more
    else if part = ".." then t.follow p.dropLast more
    else if 255 < part.utf8ByteSize then .error .nameTooLong
    else
      let next := p ++ [part]
      if (t.node? next).isNone then .error .notFound else t.follow next more

/-- Where a path starts. -/
def start (t : FileTree) (path : String) : Place :=
  if path.toList.head? = some '/' then [] else t.home

/-- A path that names something has characters, none of which is NUL, and fewer than 4096 bytes. -/
def acceptable (path : String) : Except PathFault Unit :=
  if path.toList.contains '\x00' then .error .zeroByte
  else if path = "" then .error .notFound
  else if 4096 ≤ path.utf8ByteSize then .error .nameTooLong
  else .ok ()

/-- The place that a path names. -/
def find (t : FileTree) (path : String) : Except PathFault Place := do
  acceptable path
  t.follow (t.start path) (parts path)

/-- What a path names. -/
def look (t : FileTree) (path : String) : Except PathFault Node := do
  match t.node? (← t.find path) with
  | some n => return n
  | none => throw .notFound

def kind (t : FileTree) (path : String) : Except PathFault PathKind :=
  (t.look path).map fun
    | .text _ | .binary => .file
    | .device _ => .other
    | .directory => .directory

/-- The names directly below a directory. -/
def names (t : FileTree) (path : String) : Except PathFault (List String) := do
  let p ← t.find path
  if t.isDirectory p then
    return t.nodes.filterMap fun (q, _) =>
      if q.dropLast = p && q ≠ [] then q.getLast? else none
  else throw .notDirectory

/-- The text of a file. -/
def read (t : FileTree) (path : String) : Except PathFault (Option String) := do
  match ← t.look path with
  | .text s => return some s
  | .binary => return none
  | .device _ => return some ""
  | .directory => throw .isDirectory

/-- The place at which a path lets a file be written. The directory that holds it has to exist. A
path that ends in a slash, `.` or `..` names no file, whatever is there. -/
def target (t : FileTree) (path : String) : Except PathFault Place := do
  acceptable path
  let reversed := (parts path).reverse
  match reversed.dropWhile (· = "") with
  | [] => throw .isDirectory
  | name :: above =>
    let parent ← t.follow (t.start path) above.reverse
    if !t.isDirectory parent then throw .notDirectory
    else if reversed.head? = some "" || name = "." || name = ".." then throw .isDirectory
    else if 255 < name.utf8ByteSize then throw .nameTooLong
    else return parent ++ [name]

/-- Makes the file at a place hold exactly the text. -/
def writeAt (t : FileTree) (p : Place) (text : String) : Except PathFault FileTree :=
  match t.node? p with
  | some .directory => .error .isDirectory
  | some (.device .full) => if text = "" then .ok t else .error .noSpace
  | some (.device _) => .ok t
  | _ => .ok (t.put p (.text text))

/-- Adds text at the end of the file at a place. -/
def appendAt (t : FileTree) (p : Place) (text : String) : FileTree :=
  match t.node? p with
  | some (.text old) => t.put p (.text (old ++ text))
  | _ => t

/-- Adds a directory and those above it. -/
def addDirectory (t : FileTree) (p : Place) : FileTree :=
  (List.range (p.length + 1)).foldl
    (fun t n => if (t.node? (p.take n)).isSome then t else t.put (p.take n) .directory) t

/-- The tree that holds nothing but a working directory and the devices. Nothing is typed in. -/
def blank : FileTree :=
  let t : FileTree := ⟨[([], .directory)], ["work"]⟩
  let devices := [("null", Device.null), ("full", .full), ("stdin", .null), ("stdout", .stdout),
    ("stderr", .stderr)]
  devices.foldl (fun t (name, d) => t.put ["dev", name] (.device d))
    ((t.addDirectory t.home).addDirectory ["dev"])

/-- Adds a node at a path below the working directory, with the directories on the way. -/
def add (t : FileTree) (path : String) (n : Node) : FileTree :=
  let p := t.home ++ (parts path).filter fun part => part ≠ "" && part ≠ "."
  let t := t.addDirectory p.dropLast
  match n with
  | .directory => t.addDirectory p
  | _ => t.put p n

/-- The files below the working directory that are new or differ from those of an earlier tree, by
their paths. -/
def changes (before after : FileTree) : List (String × String) :=
  after.nodes.filterMap fun (p, n) =>
    match n with
    | .text s =>
      if after.home.isPrefixOf p && before.node? p ≠ some n then
        some ("/".intercalate (p.drop after.home.length), s)
      else none
    | _ => none

end FileTree

end InterlockLadder
