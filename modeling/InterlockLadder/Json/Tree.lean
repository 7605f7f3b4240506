import InterlockLadder.Text.Quoted

/-! Documents to be written, and their two forms: compact, without any gap, and pretty, with one
element a line and two spaces for each level. -/

namespace InterlockLadder.Json

inductive Tree where
  | null
  | number (n : Nat)
  | text (s : String)
  | list (items : List Tree)
  | object (members : List (String × Tree))

namespace Tree

/-- A character between quotes. Quotes, backslashes and controls are escaped, and nothing else. -/
def escapedChar (c : Char) : List Char :=
  match c with
  | '"' => ['\\', '"']
  | '\\' => ['\\', '\\']
  | '\x08' => ['\\', 'b']
  | '\x0c' => ['\\', 'f']
  | '\n' => ['\\', 'n']
  | '\r' => ['\\', 'r']
  | '\t' => ['\\', 't']
  | _ =>
    if c.toNat < 0x20 then
      ['\\', 'u', '0', '0', Nat.digitChar (c.toNat / 16), Nat.digitChar (c.toNat % 16)]
    else [c]

def quotation (s : String) : List Char :=
  '"' :: s.toList.flatMap escapedChar ++ ['"']

mutual

/-- The document in compact form. -/
def compact : Tree → List Char
  | null => ['n', 'u', 'l', 'l']
  | number n => Nat.toDigits 10 n
  | text s => quotation s
  | list [] => ['[', ']']
  | list (item :: items) => '[' :: compact item ++ compactItems items
  | object [] => ['\x7b', '\x7d']
  | object ((name, value) :: members) =>
    '\x7b' :: quotation name ++ ':' :: compact value ++ compactMembers members

/-- The items behind the first one, and the closing bracket. -/
def compactItems : List Tree → List Char
  | [] => [']']
  | item :: items => ',' :: compact item ++ compactItems items

/-- The members behind the first one, and the closing bracket. -/
def compactMembers : List (String × Tree) → List Char
  | [] => ['\x7d']
  | (name, value) :: members =>
    ',' :: quotation name ++ ':' :: compact value ++ compactMembers members

end

/-- The start of a line at the given level. -/
def lineStart (level : Nat) : List Char :=
  '\n' :: List.replicate (2 * level) ' '

mutual

/-- The document in pretty form, at the given level. -/
def pretty (level : Nat) : Tree → List Char
  | null => ['n', 'u', 'l', 'l']
  | number n => Nat.toDigits 10 n
  | text s => quotation s
  | list [] => ['[', ']']
  | list (item :: items) =>
    '[' :: lineStart (level + 1) ++ pretty (level + 1) item ++ prettyItems level items
  | object [] => ['\x7b', '\x7d']
  | object ((name, value) :: members) =>
    '\x7b' :: lineStart (level + 1) ++ quotation name ++ ':' :: ' ' :: pretty (level + 1) value ++
      prettyMembers level members

/-- The items behind the first one, and the closing bracket. -/
def prettyItems (level : Nat) : List Tree → List Char
  | [] => lineStart level ++ [']']
  | item :: items =>
    ',' :: lineStart (level + 1) ++ pretty (level + 1) item ++ prettyItems level items

/-- The members behind the first one, and the closing bracket. -/
def prettyMembers (level : Nat) : List (String × Tree) → List Char
  | [] => lineStart level ++ ['\x7d']
  | (name, value) :: members =>
    ',' :: lineStart (level + 1) ++ quotation name ++ ':' :: ' ' :: pretty (level + 1) value ++
      prettyMembers level members

end

end Tree

/-- How a document is laid out. -/
inductive Form where
  | compact
  | pretty
deriving DecidableEq, Repr

def Tree.render (form : Form) (t : Tree) : String :=
  .ofList <| match form with
    | .compact => t.compact
    | .pretty => t.pretty 0

end InterlockLadder.Json
