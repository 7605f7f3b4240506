/-! Texts: white space and trimming, upper case, columns and lines. A character is blank when it has
the `White_Space` property; the zero-width characters and the information separators do not have it.

Trimming is stated over lists of characters (`trimBlanks`), and the operations on `String` are
that function between `String.toList` and `String.ofList`. -/

namespace InterlockLadder.Text

/-! ## White space -/

/-- The code points with the `White_Space` property, as closed ranges in ascending order. -/
def blankRanges : List (Nat × Nat) :=
  [(0x9, 0xD), (0x20, 0x20), (0x85, 0x85), (0xA0, 0xA0), (0x1680, 0x1680), (0x2000, 0x200A),
   (0x2028, 0x2029), (0x202F, 0x202F), (0x205F, 0x205F), (0x3000, 0x3000)]

def isBlankChar (c : Char) : Bool :=
  blankRanges.any fun r => r.1 ≤ c.toNat && c.toNat ≤ r.2

/-- Drops the blanks at the end. -/
def dropBlanksRight (cs : List Char) : List Char :=
  (cs.reverse.dropWhile isBlankChar).reverse

/-- Drops the blanks at both ends. -/
def trimBlanks (cs : List Char) : List Char :=
  dropBlanksRight (cs.dropWhile isBlankChar)

def trim (s : String) : String :=
  .ofList (trimBlanks s.toList)

def trimRight (s : String) : String :=
  .ofList (dropBlanksRight s.toList)

/-- A text is blank when it holds no character that is not. -/
def isBlank (s : String) : Bool :=
  s.toList.all isBlankChar

/-- The trimmed text, unless it is blank. -/
def nonBlank? (s : String) : Option String :=
  if isBlank s then none else some (trim s)

@[simp] theorem toList_trim (s : String) : (trim s).toList = trimBlanks s.toList := by
  simp [trim]

theorem dropWhile_blank_eq_nil_iff {cs : List Char} :
    cs.dropWhile isBlankChar = [] ↔ cs.all isBlankChar := by
  induction cs with
  | nil => simp
  | cons c cs ih => by_cases hc : isBlankChar c <;> simp [hc, ih]

theorem trimBlanks_eq_nil_iff {cs : List Char} : trimBlanks cs = [] ↔ cs.all isBlankChar := by
  rw [trimBlanks, dropBlanksRight, List.reverse_eq_nil_iff, dropWhile_blank_eq_nil_iff,
    List.all_reverse]
  induction cs with
  | nil => simp
  | cons c cs ih => by_cases hc : isBlankChar c <;> simp [hc, ih]

/-- Trimming leaves nothing exactly when there is nothing but blanks. -/
theorem trim_eq_empty_iff {s : String} : trim s = "" ↔ isBlank s := by
  rw [← String.toList_inj, toList_trim, isBlank, ← trimBlanks_eq_nil_iff]
  rfl

/-! ## Upper case -/

/-- Changes the letters `a` to `z` alone; accented letters among others stay as they are. -/
def upper (s : String) : String :=
  .ofList (s.toList.map Char.toUpper)

@[simp] theorem toList_upper (s : String) : (upper s).toList = s.toList.map Char.toUpper := by
  simp [upper]

/-! ## Columns and lines

The width of a column is counted in characters. -/

/-- Fills up with spaces on the left. A text that is wider than the column stays whole. -/
def padLeft (width : Nat) (s : String) : String :=
  .ofList (List.replicate (width - s.toList.length) ' ' ++ s.toList)

/-- Fills up with spaces on the right. -/
def padRight (width : Nat) (s : String) : String :=
  .ofList (s.toList ++ List.replicate (width - s.toList.length) ' ')

/-- Drops one carriage return at the end of a line that was ended by a line feed. -/
def dropReturn (line : List Char) : List Char :=
  if line.getLast? = some '\r' then line.dropLast else line

/-- The lines of a text, given the characters of the line so far. A line ends at a line feed, and
what follows the last one is a line only if it is not empty. -/
def splitLines (line : List Char) : List Char → List (List Char)
  | [] => if line.isEmpty then [] else [line]
  | c :: cs =>
    if c = '\n' then dropReturn line :: splitLines [] cs else splitLines (line ++ [c]) cs

def lines (s : String) : List String :=
  (splitLines [] s.toList).map .ofList

example : lines "a\r\n\nb" = ["a", "", "b"] := by decide

end InterlockLadder.Text
