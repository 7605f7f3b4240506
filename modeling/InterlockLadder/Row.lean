import InterlockLadder.Text.Basic

/-! The rows of a mnemonic listing: a sequence key, a step label, an instruction with its operand,
and optionally a line statement. Generated rows hold either an instruction or a statement; rows
from elsewhere may hold any mixture, so all parts are text. Each instruction plays its part on the
operand stack. -/

namespace InterlockLadder

/-! ## Instructions -/

inductive Opcode where
  | ld | ldi | ldp | ldf
  | and | ani | andp | andf
  | or | ori | orp | orf
  | anb | orb
  | out | set | rst | pls | plf
  | mov | movp | dmov | bmov | fmov
  | add | sub | mul | div | inc | dec
  | call | callp
  | noplf
  | nop
deriving DecidableEq, Repr

namespace Opcode

/-- What an instruction does with the condition expression of its rung. -/
inductive Family where
  /-- Starts an expression or, within one, a branch. -/
  | load (inverted : Bool)
  /-- Combines an operand into the expression. -/
  | logic
  /-- Combines the two latest branches. -/
  | block
  /-- Acts on the value of the expression. -/
  | consume
  | call
  /-- Ends the expression. -/
  | separator
  | noop
deriving DecidableEq, Repr

def all : List Opcode :=
  [ld, ldi, ldp, ldf, and, ani, andp, andf, or, ori, orp, orf, anb, orb, out, set, rst, pls, plf,
   mov, movp, dmov, bmov, fmov, add, sub, mul, div, inc, dec, call, callp, noplf, nop]

def mnemonic : Opcode → String
  | ld => "LD" | ldi => "LDI" | ldp => "LDP" | ldf => "LDF"
  | and => "AND" | ani => "ANI" | andp => "ANDP" | andf => "ANDF"
  | or => "OR" | ori => "ORI" | orp => "ORP" | orf => "ORF"
  | anb => "ANB" | orb => "ORB"
  | out => "OUT" | set => "SET" | rst => "RST" | pls => "PLS" | plf => "PLF"
  | mov => "MOV" | movp => "MOVP" | dmov => "DMOV" | bmov => "BMOV" | fmov => "FMOV"
  | add => "ADD" | sub => "SUB" | mul => "MUL" | div => "DIV" | inc => "INC" | dec => "DEC"
  | call => "CALL" | callp => "CALLP"
  | noplf => "NOPLF"
  | nop => "NOP"

def family : Opcode → Family
  | ld | ldp | ldf => .load false
  | ldi => .load true
  | and | ani | andp | andf | or | ori | orp | orf => .logic
  | anb | orb => .block
  | out | set | rst | pls | plf | mov | movp | dmov | bmov | fmov
  | add | sub | mul | div | inc | dec => .consume
  | call | callp => .call
  | noplf => .separator
  | nop => .noop

/-- The instruction that a text names, whatever the case of its letters and the blanks around it. -/
def parse? (text : String) : Option Opcode :=
  let name := Text.upper (Text.trim text)
  all.find? fun op => op.mnemonic = name

theorem mem_all (op : Opcode) : op ∈ all := by
  cases op <;> decide

theorem mnemonic_injective {a b : Opcode} (h : a.mnemonic = b.mnemonic) : a = b := by
  have eq_of_mem : ∀ x ∈ all, ∀ y ∈ all, x.mnemonic = y.mnemonic → x = y := by decide +kernel
  exact eq_of_mem a (mem_all a) b (mem_all b) h

/-- Only the normalised text counts: it is compared with the mnemonic. -/
theorem parse?_eq_some_iff {text : String} {op : Opcode} :
    parse? text = some op ↔ Text.upper (Text.trim text) = op.mnemonic := by
  constructor
  · intro h
    simpa [eq_comm] using List.find?_some h
  · intro h
    have hsome : (parse? text).isSome := by
      rw [parse?, List.find?_isSome]
      exact ⟨op, mem_all op, by simp [h]⟩
    obtain ⟨found, hfound⟩ := Option.isSome_iff_exists.mp hsome
    have hname : found.mnemonic = Text.upper (Text.trim text) := by
      simpa using List.find?_some hfound
    rw [hfound, mnemonic_injective (hname.trans h)]

namespace Family

def name : Family → String
  | load false => "load"
  | load true => "load inverted"
  | logic => "logic"
  | block => "block"
  | consume => "consume"
  | call => "call"
  | separator => "separator"
  | noop => "noop"

end Family

end Opcode

/-! ## Rows -/

structure Row where
  key : UInt32
  step : String := ""
  opcode : String := ""
  operand : String := ""
  statement : Option String := none
deriving DecidableEq, Repr

namespace Row

def opcode? (row : Row) : Option Opcode :=
  Opcode.parse? row.opcode

def hasBlankOpcode (row : Row) : Bool :=
  Text.isBlank row.opcode

def hasBlankOperand (row : Row) : Bool :=
  Text.isBlank row.operand

/-- A statement counts only if it is not blank. -/
def hasStatement (row : Row) : Bool :=
  row.statement.any fun text => !Text.isBlank text

/-- The line of a listing: the key, then either the statement or the step, the instruction and its
operand, in columns. -/
def listing (row : Row) : String :=
  let key := Text.padLeft 5 (toString row.key.toNat)
  let instruction := key ++ " " ++ Text.padLeft 5 row.step ++ " " ++ Text.padRight 6 row.opcode ++
    " " ++ row.operand
  match row.statement with
  | some text => if row.hasBlankOpcode then key ++ " ; " ++ text else instruction
  | none => instruction

end Row

end InterlockLadder
