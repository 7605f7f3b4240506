import InterlockLadder.Row

/-! A machine that executes listings: a memory and a stack of operand values. What the values are
and what the instructions do with them is left to an `Interpretation`; the machine itself only
fixes how many values each instruction takes from the stack and puts onto it, and so where a
listing gets stuck (`StackMachine.step`). `StackMachine.execute` ends at the first row that is
stuck, `StackMachine.run` skips such rows. -/

namespace InterlockLadder

/-- What the instructions do with values of type `α` and a memory of type `μ`. -/
structure Interpretation (μ α : Type) where
  /-- The value that a load pushes. -/
  load : Opcode → String → μ → α
  /-- The value that replaces the top of the stack. -/
  combine : Opcode → String → μ → α → α
  /-- The value of two branches, the lower one first. -/
  join : Opcode → α → α → α
  /-- The memory behind an instruction that reads the top of the stack. -/
  store : Opcode → String → α → μ → μ

structure StackMachine (μ α : Type) where
  memory : μ
  stack : List α

namespace Opcode.Family

/-- How many values an instruction needs on the stack. -/
def takes : Opcode.Family → Nat
  | .logic | .consume => 1
  | .block => 2
  | .load _ | .call | .separator | .noop => 0

/-- The height of the stack behind an instruction that finds enough values. -/
def heightAfter (height : Nat) : Opcode.Family → Nat
  | .load _ => height + 1
  | .block => height - 1
  | .separator => 0
  | .logic | .consume | .call | .noop => height

end Opcode.Family

/-- Whether the row only bears a statement. -/
def Row.isComment (row : Row) : Bool :=
  row.hasBlankOpcode && row.hasStatement

/-- A text that names an instruction is not blank. -/
theorem Row.hasBlankOpcode_of_opcode? {row : Row} {op : Opcode} (h : row.opcode? = some op) :
    row.hasBlankOpcode = false := by
  have hname := Opcode.parse?_eq_some_iff.mp h
  refine Bool.eq_false_iff.mpr fun hblank => ?_
  rw [Text.trim_eq_empty_iff.mpr hblank] at hname
  cases op <;> exact absurd hname (by decide)

namespace StackMachine

variable {μ α : Type}

/-- A machine with an empty stack. -/
def start (memory : μ) : StackMachine μ α :=
  ⟨memory, []⟩

/-- Drops all operand values. -/
def clear (m : StackMachine μ α) : StackMachine μ α :=
  { m with stack := [] }

variable (I : Interpretation μ α)

/-- Executes an instruction, if the stack holds the values that it takes. -/
def act (op : Opcode) (operand : String) (m : StackMachine μ α) : Option (StackMachine μ α) :=
  match op.family, m.stack with
  | .load _, stack => some { m with stack := I.load op operand m.memory :: stack }
  | .logic, top :: rest => some { m with stack := I.combine op operand m.memory top :: rest }
  | .block, top :: below :: rest => some { m with stack := I.join op below top :: rest }
  | .consume, top :: rest => some ⟨I.store op operand top m.memory, top :: rest⟩
  | .logic, _ | .block, _ | .consume, _ => none
  | .separator, _ => some m.clear
  | .call, _ | .noop, _ => some m

/-- Executes a row. A comment drops all operand values; other rows that name no instruction have
no effect. -/
def step (row : Row) (m : StackMachine μ α) : Option (StackMachine μ α) :=
  match row.opcode? with
  | some op => m.act I op row.operand
  | none => some (if row.isComment then m.clear else m)

/-- Executes all rows, or none of what follows a row that is stuck. -/
def execute (rows : List Row) (m : StackMachine μ α) : Option (StackMachine μ α) :=
  rows.foldlM (fun m row => m.step I row) m

/-- Executes a row or skips it if it is stuck. -/
def advance (m : StackMachine μ α) (row : Row) : StackMachine μ α :=
  (m.step I row).getD m

/-- Executes all rows that are not stuck. -/
def run (rows : List Row) (m : StackMachine μ α) : StackMachine μ α :=
  rows.foldl (advance I) m

@[simp] theorem execute_cons (row : Row) (rows : List Row) (m : StackMachine μ α) :
    m.execute I (row :: rows) = (m.step I row).bind (execute I rows) := by
  simp only [execute, List.foldlM_cons]
  rfl

@[simp] theorem execute_append (rows rows' : List Row) (m : StackMachine μ α) :
    m.execute I (rows ++ rows') = (m.execute I rows).bind (execute I rows') := by
  simp only [execute, List.foldlM_append]
  rfl

@[simp] theorem run_cons (row : Row) (rows : List Row) (m : StackMachine μ α) :
    m.run I (row :: rows) = (m.advance I row).run I rows := by
  simp only [run, List.foldl_cons]

/-- An instruction is stuck exactly when the stack is too low for it. -/
theorem act_eq_none_iff {op : Opcode} {operand : String} {m : StackMachine μ α} :
    m.act I op operand = none ↔ m.stack.length < op.family.takes := by
  rcases m with ⟨memory, _ | ⟨top, _ | ⟨below, rest⟩⟩⟩ <;> cases hf : op.family <;>
    simp [act, hf, Opcode.Family.takes]

/-- The height of the stack does not depend on the values. -/
theorem length_stack_act {op : Opcode} {operand : String} {m m' : StackMachine μ α}
    (h : m.act I op operand = some m') :
    m'.stack.length = op.family.heightAfter m.stack.length := by
  rcases m with ⟨memory, _ | ⟨top, _ | ⟨below, rest⟩⟩⟩ <;> cases hf : op.family <;>
    simp only [act, hf, Option.some.injEq, reduceCtorEq] at h <;> subst h <;> rfl

theorem step_of_opcode? {row : Row} {op : Opcode} (h : row.opcode? = some op)
    (m : StackMachine μ α) : m.step I row = m.act I op row.operand := by
  rw [step, h]

theorem step_eq_none_iff {row : Row} {m : StackMachine μ α} :
    m.step I row = none ↔ ∃ op, row.opcode? = some op ∧ m.stack.length < op.family.takes := by
  cases hop : row.opcode? with
  | none => simp [step, hop]
  | some op => simp [step, hop, act_eq_none_iff]

theorem step_of_isComment {row : Row} (h : row.isComment) (m : StackMachine μ α) :
    m.step I row = some m.clear := by
  cases hop : row.opcode? with
  | none => simp [step, hop, h]
  | some op => simp [Row.isComment, Row.hasBlankOpcode_of_opcode? hop] at h

end StackMachine

end InterlockLadder
