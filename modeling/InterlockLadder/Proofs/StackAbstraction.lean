import InterlockLadder.Check.Listing
import InterlockLadder.Proofs.StackMachine

/-! The expressions of the validator as an abstraction of the operand stack. An expression knows
whether the stack holds a value and how many values wait below the top (`Expression.Tracks`), and
every row keeps this, whether the machine is stuck there or not. So what the validator says about
the stack is what a machine with a real stack would report (`StackMachine.reports`), whatever the
values and the memory are. -/

namespace InterlockLadder

/-- Whether the issue is about the operand stack: any error but a missing operand, and the two
warnings about values left on the stack. -/
def Issue.isAboutStack (issue : Issue) : Bool :=
  (issue.isError && issue.problem ≠ .missingOperand) || issue.problem = .conditionalCall ||
    issue.problem = .unresolvedBranches

namespace Issue

@[simp] theorem isAboutStack_error (row : Row) (problem : Problem) :
    (error row problem).isAboutStack = decide (problem ≠ .missingOperand) := by
  cases problem <;> rfl

@[simp] theorem isAboutStack_warning (row : Row) (problem : Problem) :
    (warning row problem).isAboutStack =
      decide (problem = .conditionalCall ∨ problem = .unresolvedBranches) := by
  cases problem <;> rfl

@[simp] theorem isAboutStack_detail (issue : Issue) (text : String) :
    (issue.detail text).isAboutStack = issue.isAboutStack := rfl

end Issue

namespace StackMachine

variable {μ α : Type}

/-- The problems of an instruction that a stack of the given height does not suffice for. -/
def underflow (height : Nat) : Opcode.Family → List Problem
  | .logic => [.opcodeBeforeLoad]
  | .block => if height = 0 then [.opcodeBeforeLoad, .blockWithoutBranch] else [.blockWithoutBranch]
  | .consume => [.noConditionExpression]
  | .load _ | .call | .separator | .noop => []

/-- The report about a call that depends on a value on the stack. -/
def conditionalCall (row : Row) : Issue :=
  (Issue.warning row .conditionalCall).detail "consider an unconditional separator"

/-- An underflow is a problem, and another one than an operand that is not there. -/
theorem exists_mem_underflow {height : Nat} {family : Opcode.Family}
    (hlow : height < family.takes) :
    ∃ problem ∈ underflow height family, problem ≠ .missingOperand := by
  cases family with
  | logic => exact ⟨.opcodeBeforeLoad, by simp [underflow]⟩
  | block =>
    refine ⟨.blockWithoutBranch, ?_, by simp⟩
    simp only [underflow]
    split <;> simp
  | consume => exact ⟨.noConditionExpression, by simp [underflow]⟩
  | load | call | separator | noop => exact absurd hlow (Nat.not_lt_zero _)

theorem problem_of_mem_underflow {height : Nat} {family : Opcode.Family} {problem : Problem}
    (h : problem ∈ underflow height family) :
    problem ≠ .conditionalCall ∧ problem ≠ .unresolvedBranches := by
  cases family with
  | block =>
    have hblock : problem = .opcodeBeforeLoad ∨ problem = .blockWithoutBranch := by
      simp only [underflow] at h
      split at h <;> simp_all
    obtain rfl | rfl := hblock <;> decide
  | logic | consume =>
    obtain rfl := List.mem_singleton.mp h
    decide
  | load | call | separator | noop => cases h

variable (I : Interpretation μ α)

/-- What is reported about a row in front of which the machine is `m`: the underflow if it is
stuck, and a conditional call. -/
def report (m : StackMachine μ α) (row : Row) : List Issue :=
  match m.step I row, row.opcode?.map Opcode.family with
  | none, some family => (underflow m.stack.length family).map (Issue.error row)
  | some _, some .call => if m.stack.isEmpty then [] else [conditionalCall row]
  | _, _ => []

/-- The reports about the rows that follow. Stuck rows are skipped. -/
def reports (m : StackMachine μ α) : List Row → List Issue
  | [] => []
  | row :: rows => m.report I row ++ (m.advance I row).reports rows

/-- The report about the values below the top of the stack that the rows have left behind. It names
the last instruction. -/
def endReport (rows : List Row) (m : StackMachine μ α) : List Issue :=
  if m.stack.length ≤ 1 then []
  else ((rows.filter fun row => !row.hasBlankOpcode).getLast?.map fun row =>
    (Issue.warning row .unresolvedBranches).detail
      (toString (m.stack.length - 1) ++ " unresolved branches")).toList

/-- The report about an instruction that the stack is too low for. -/
theorem report_of_lt {m : StackMachine μ α} {row : Row} {op : Opcode} (h : row.opcode? = some op)
    (hlow : m.stack.length < op.family.takes) :
    m.report I row = (underflow m.stack.length op.family).map (Issue.error row) := by
  rw [report, step_of_opcode? I h, (act_eq_none_iff I).mpr hlow, h]
  rfl

theorem report_of_le {m : StackMachine μ α} {row : Row} {op : Opcode} (h : row.opcode? = some op)
    (henough : op.family.takes ≤ m.stack.length) :
    m.report I row =
      if op.family = .call ∧ 0 < m.stack.length then [conditionalCall row] else [] := by
  rw [report, step_of_opcode? I h, h]
  cases hact : m.act I op row.operand with
  | none => exact absurd ((act_eq_none_iff I).mp hact) (Nat.not_lt.mpr henough)
  | some m' => cases hf : op.family <;> cases hs : m.stack <;> simp [hf]

theorem report_of_opcode?_eq_none {m : StackMachine μ α} {row : Row} (h : row.opcode? = none) :
    m.report I row = [] := by
  simp [report, step, h]

theorem mem_report_iff {m : StackMachine μ α} {row : Row} {issue : Issue} :
    issue ∈ m.report I row ↔ ∃ op, row.opcode? = some op ∧
      ((m.stack.length < op.family.takes ∧
          ∃ problem ∈ underflow m.stack.length op.family, .error row problem = issue) ∨
        op.family = .call ∧ 0 < m.stack.length ∧ issue = conditionalCall row) := by
  cases hop : row.opcode? with
  | none => simp [report_of_opcode?_eq_none I hop]
  | some op =>
    obtain hlow | henough := Nat.lt_or_ge m.stack.length op.family.takes
    · have hcall : op.family ≠ .call := fun hf => by simp [hf, Opcode.Family.takes] at hlow
      simp [report_of_lt I hop hlow, hlow, hcall]
    · simp [report_of_le I hop henough, Nat.not_lt.mpr henough, and_assoc]

theorem problem_of_mem_reports {m : StackMachine μ α} {rows : List Row} {issue : Issue}
    (h : issue ∈ m.reports I rows) : issue.problem ≠ .unresolvedBranches := by
  induction rows generalizing m with
  | nil => cases h
  | cons row rows ih =>
    obtain h | h := List.mem_append.mp h
    · obtain ⟨op, -, ⟨-, problem, hproblem, rfl⟩ | ⟨-, -, rfl⟩⟩ := (mem_report_iff I).mp h
      · exact (problem_of_mem_underflow hproblem).2
      · nofun
    · exact ih h

theorem problem_of_mem_endReport {m : StackMachine μ α} {rows : List Row} {issue : Issue}
    (h : issue ∈ m.endReport rows) : issue.problem = .unresolvedBranches := by
  rw [endReport] at h
  split at h
  · cases h
  · obtain ⟨row, -, rfl⟩ := Option.map_eq_some_iff.mp (Option.mem_toList.mp h)
    rfl

end StackMachine

namespace Row

theorem role_of_not_hasBlankOpcode {row : Row} (h : row.hasBlankOpcode = false) :
    row.role = .instruction (row.opcode?.map Opcode.family) := by
  rw [role, h]
  rfl

theorem role_of_opcode? {row : Row} {op : Opcode} (h : row.opcode? = some op) :
    row.role = .instruction (some op.family) := by
  rw [role_of_not_hasBlankOpcode (hasBlankOpcode_of_opcode? h), h, Option.map_some]

theorem role_of_isComment {row : Row} (h : row.isComment) : row.role = .comment := by
  simp only [isComment, Bool.and_eq_true] at h
  simp [role, h]

/-- A row that names no instruction and is no comment either does not play a part in expressions. -/
theorem role_of_not_isComment {row : Row} (hop : row.opcode? = none) (h : ¬ row.isComment) :
    row.role = .filler ∨ row.role = .instruction none := by
  cases hblank : row.hasBlankOpcode with
  | false => exact .inr (by rw [role_of_not_hasBlankOpcode hblank, hop, Option.map_none])
  | true => exact .inl (by simp_all [role, isComment])

end Row

namespace Expression

/-- The expression is what is known of a stack of the given height: it is open if there is a value
at all, and its branches are the values below the top. An instruction has pushed the values. -/
structure Tracks (e : Expression) (height : Nat) : Prop where
  isOpen : e.isOpen = decide (0 < height)
  branches : e.branches = height - 1
  last : 0 < height → e.last.isSome

namespace Tracks

variable {e : Expression} {height : Nat}

theorem empty : ({} : Expression).Tracks 0 :=
  ⟨rfl, rfl, fun h => absurd h (Nat.lt_irrefl 0)⟩

theorem close (e : Expression) : e.close.Tracks 0 :=
  ⟨rfl, rfl, fun h => absurd h (Nat.lt_irrefl 0)⟩

/-- An instruction changes the expression as it changes the height of the stack. -/
theorem act (h : e.Tracks height) (row : Row) {family : Opcode.Family}
    (henough : family.takes ≤ height) :
    ({ e with last := some row }.act (some family)).Tracks (family.heightAfter height) := by
  obtain ⟨hopen, hbranches, -⟩ := h
  cases family with
  | load inverted =>
    refine ⟨by simp [Expression.act, Opcode.Family.heightAfter], ?_, fun _ => rfl⟩
    simp only [Expression.act, hopen, hbranches, decide_eq_true_eq, Opcode.Family.heightAfter]
    split <;> omega
  | block =>
    have htwo : 2 ≤ height := henough
    refine ⟨?_, ?_, fun _ => rfl⟩
    · change e.isOpen = decide (0 < height - 1)
      rw [hopen]
      exact decide_eq_decide.mpr (by omega)
    · simp [Expression.act, hbranches, Opcode.Family.heightAfter]
  | separator => exact close _
  | logic | consume | call | noop => exact ⟨hopen, hbranches, fun _ => rfl⟩

/-- An instruction that the stack is too low for leaves the expression as it is. -/
theorem act_of_lt (h : e.Tracks height) (row : Row) {family : Opcode.Family}
    (hlow : height < family.takes) :
    ({ e with last := some row }.act (some family)).Tracks height := by
  obtain ⟨hopen, hbranches, -⟩ := h
  cases family with
  | block =>
    have htwo : height < 2 := hlow
    refine ⟨hopen, ?_, fun _ => rfl⟩
    simp only [Expression.act, hbranches]
    omega
  | logic | consume => exact ⟨hopen, hbranches, fun _ => rfl⟩
  | load | call | separator | noop => exact absurd hlow (Nat.not_lt_zero _)

variable {μ α : Type} {I : Interpretation μ α} {m : StackMachine μ α}

/-- A row changes the expression as it changes the stack, also if it is stuck. -/
theorem next (h : e.Tracks m.stack.length) (row : Row) :
    (e.next row).Tracks (m.advance I row).stack.length := by
  cases hop : row.opcode? with
  | some op =>
    rw [Expression.next, Row.role_of_opcode? hop, StackMachine.advance,
      StackMachine.step_of_opcode? I hop]
    cases hact : m.act I op row.operand with
    | none => exact h.act_of_lt row ((StackMachine.act_eq_none_iff I).mp hact)
    | some m' =>
      have henough : op.family.takes ≤ m.stack.length := by
        refine Nat.not_lt.mp fun hlow => ?_
        rw [(StackMachine.act_eq_none_iff I).mpr hlow] at hact
        cases hact
      rw [Option.getD_some, StackMachine.length_stack_act I hact]
      exact h.act row henough
  | none =>
    by_cases hcomment : row.isComment
    · rw [Expression.next, Row.role_of_isComment hcomment, StackMachine.advance,
        StackMachine.step_of_isComment I hcomment]
      exact close e
    · have hstay : m.advance I row = m := by
        simp [StackMachine.advance, StackMachine.step, hop, hcomment]
      rw [hstay]
      obtain hrole | hrole := Row.role_of_not_isComment hop hcomment <;>
        rw [Expression.next, hrole]
      · exact h
      · exact ⟨h.isOpen, h.branches, fun _ => rfl⟩

end Tracks

variable {e : Expression} {height : Nat}

theorem filter_operandIssues (row : Row) : (operandIssues row).filter Issue.isAboutStack = [] := by
  cases h : row.hasBlankOperand <;> simp [operandIssues, h]

/-- What the validator says about an instruction that the stack is too low for. -/
theorem filter_instructionIssues_of_lt (h : e.Tracks height) (row : Row) {family : Opcode.Family}
    (hlow : height < family.takes) :
    (e.instructionIssues row (some family)).filter Issue.isAboutStack =
      (StackMachine.underflow height family).map (Issue.error row) := by
  have hopen := h.isOpen
  have hbranches := h.branches
  cases family with
  | logic | consume =>
    obtain rfl : height = 0 := Nat.lt_one_iff.mp hlow
    simp [instructionIssues, hopen, hbranches, filter_operandIssues, StackMachine.underflow]
  | block =>
    obtain rfl | rfl : height = 0 ∨ height = 1 := by
      have htwo : height < 2 := hlow
      omega
    · simp [instructionIssues, hopen, hbranches, StackMachine.underflow]
    · simp [instructionIssues, hopen, hbranches, StackMachine.underflow]
  | load | call | separator | noop => exact absurd hlow (Nat.not_lt_zero _)

/-- About any other instruction it only says that a call is conditional. -/
theorem filter_instructionIssues_of_le (h : e.Tracks height) (row : Row) {family : Opcode.Family}
    (henough : family.takes ≤ height) :
    (e.instructionIssues row (some family)).filter Issue.isAboutStack =
      if family = .call ∧ 0 < height then [StackMachine.conditionalCall row] else [] := by
  have hopen := h.isOpen
  have hbranches := h.branches
  cases family with
  | load inverted => simp [instructionIssues, filter_operandIssues]
  | separator | noop => simp [instructionIssues]
  | logic | consume =>
    have hpos : 0 < height := henough
    simp [instructionIssues, filter_operandIssues, hopen, hpos]
  | block =>
    have htwo : 2 ≤ height := henough
    have hpos : 0 < height := by omega
    have hne : height - 1 ≠ 0 := by omega
    simp [instructionIssues, hopen, hbranches, hpos, hne]
  | call =>
    cases height <;> simp [instructionIssues, hopen, hbranches, StackMachine.conditionalCall]

/-- What the validator says about a row, as far as it concerns the stack, is the report of any
machine whose stack the expression tracks. -/
theorem filter_issues {μ α : Type} {I : Interpretation μ α} {m : StackMachine μ α}
    (h : e.Tracks m.stack.length) (mark : String) (row : Row) :
    (e.issues mark row).filter Issue.isAboutStack = m.report I row := by
  cases hop : row.opcode? with
  | some op =>
    rw [issues, Row.role_of_opcode? hop]
    obtain hlow | henough := Nat.lt_or_ge m.stack.length op.family.takes
    · rw [StackMachine.report_of_lt I hop hlow]
      exact filter_instructionIssues_of_lt h row hlow
    · rw [StackMachine.report_of_le I hop henough]
      exact filter_instructionIssues_of_le h row henough
  | none =>
    rw [StackMachine.report_of_opcode?_eq_none I hop]
    by_cases hcomment : row.isComment
    · simp [issues, Row.role_of_isComment hcomment]
    · obtain hrole | hrole := Row.role_of_not_isComment hop hcomment
      · simp only [issues, hrole]
        split <;> simp
      · simp [issues, hrole, instructionIssues]

variable {μ α : Type} (I : Interpretation μ α)

theorem filter_rowIssues (mark : String) {m : StackMachine μ α} (h : e.Tracks m.stack.length)
    (rows : List Row) :
    (e.rowIssues mark rows).filter Issue.isAboutStack = m.reports I rows := by
  induction rows generalizing e m with
  | nil => rfl
  | cons row rows ih =>
    rw [rowIssues, List.filter_append, filter_issues h, ih (h.next row)]
    rfl

theorem Tracks.after {m : StackMachine μ α} (h : e.Tracks m.stack.length) (rows : List Row) :
    (e.after rows).Tracks (m.run I rows).stack.length := by
  induction rows generalizing e m with
  | nil => exact h
  | cons row rows ih =>
    rw [StackMachine.run_cons]
    exact ih (h.next row)

@[simp] theorem last_close (e : Expression) : e.close.last = e.last := rfl

theorem last_act (e : Expression) (family : Option Opcode.Family) :
    (e.act family).last = e.last := by
  obtain _ | family := family
  · rfl
  · cases family <;> rfl

theorem last_next (e : Expression) (row : Row) :
    (e.next row).last = if row.hasBlankOpcode then e.last else some row := by
  cases hblank : row.hasBlankOpcode with
  | false => simp [next, Row.role, hblank, last_act]
  | true => cases hs : row.hasStatement <;> simp [next, Row.role, hblank, hs]

/-- Comments and fillers do not count as the latest instruction, and nothing forgets it. -/
theorem last_after (e : Expression) (rows : List Row) :
    (e.after rows).last = (rows.filter fun row => !row.hasBlankOpcode).getLast?.or e.last := by
  induction rows generalizing e with
  | nil => rfl
  | cons row rows ih =>
    change ((e.next row).after rows).last = _
    rw [ih, last_next]
    cases hblank : row.hasBlankOpcode <;> simp [hblank, List.getLast?_cons]

theorem endIssues_eq_endReport {m : StackMachine μ α} {rows : List Row}
    (h : (after {} rows).Tracks m.stack.length) :
    (after {} rows).endIssues = m.endReport rows := by
  have hbranches := h.branches
  rw [endIssues, last_after, Option.or_none, StackMachine.endReport]
  obtain hlow | hhigh := Nat.lt_or_ge 1 m.stack.length
  · rw [if_neg (by omega), if_neg (by omega), hbranches]
    cases (rows.filter fun row => !row.hasBlankOpcode).getLast? <;> rfl
  · rw [if_pos (by omega), if_pos hhigh]

theorem mem_issues_iff {m : StackMachine μ α} (h : e.Tracks m.stack.length) (mark : String)
    (row : Row) {issue : Issue} (hissue : issue.isAboutStack) :
    issue ∈ e.issues mark row ↔ issue ∈ m.report I row := by
  rw [← filter_issues h mark row, List.mem_filter]
  exact (and_iff_left hissue).symm

/-- The validator issues an error other than a missing operand at a row exactly when the machine
cannot execute it. -/
theorem error_mem_issues_iff {m : StackMachine μ α} (h : e.Tracks m.stack.length) (mark : String)
    (row : Row) :
    (∃ issue ∈ e.issues mark row, issue.isError ∧ issue.problem ≠ .missingOperand) ↔
      m.step I row = none := by
  rw [StackMachine.step_eq_none_iff]
  constructor
  · rintro ⟨issue, hissue, herror⟩
    rw [mem_issues_iff I h mark row (by simp [Issue.isAboutStack, herror])] at hissue
    obtain ⟨op, hop, ⟨hlow, -⟩ | ⟨-, -, rfl⟩⟩ := (StackMachine.mem_report_iff I).mp hissue
    · exact ⟨op, hop, hlow⟩
    · cases herror.1
  · rintro ⟨op, hop, hlow⟩
    obtain ⟨problem, hproblem, hne⟩ := StackMachine.exists_mem_underflow hlow
    refine ⟨.error row problem, ?_, rfl, hne⟩
    rw [mem_issues_iff I h mark row (by simp [hne])]
    exact (StackMachine.mem_report_iff I).mpr ⟨op, hop, .inl ⟨hlow, problem, hproblem, rfl⟩⟩

theorem conditionalCall_mem_issues_iff (I : Interpretation μ α) {m : StackMachine μ α}
    (h : e.Tracks m.stack.length) (mark : String) (row : Row) :
    (∃ issue ∈ e.issues mark row, issue.problem = .conditionalCall) ↔
      (row.opcode? = some .call ∨ row.opcode? = some .callp) ∧ m.stack ≠ [] := by
  have hfamily : (row.opcode? = some .call ∨ row.opcode? = some .callp) ↔
      ∃ op, row.opcode? = some op ∧ op.family = .call := by
    constructor
    · rintro (hop | hop) <;> exact ⟨_, hop, rfl⟩
    · rintro ⟨op, hop, hf⟩
      cases op <;> simp_all [Opcode.family]
  rw [hfamily]
  constructor
  · rintro ⟨issue, hissue, hproblem⟩
    rw [mem_issues_iff I h mark row (by simp [Issue.isAboutStack, hproblem])] at hissue
    obtain ⟨op, hop, ⟨-, problem, hlow, rfl⟩ | ⟨hcall, hpos, -⟩⟩ :=
      (StackMachine.mem_report_iff I).mp hissue
    · exact absurd hproblem (StackMachine.problem_of_mem_underflow hlow).1
    · exact ⟨⟨op, hop, hcall⟩, List.length_pos_iff.mp hpos⟩
  · rintro ⟨⟨op, hop, hcall⟩, hne⟩
    refine ⟨StackMachine.conditionalCall row, ?_, rfl⟩
    rw [mem_issues_iff I h mark row rfl]
    exact (StackMachine.mem_report_iff I).mpr
      ⟨op, hop, .inr ⟨hcall, List.length_pos_iff.mpr hne, rfl⟩⟩

theorem filter_listingIssues (mark : String) (memory : μ) (rows : List Row) :
    (listingIssues mark rows).filter Issue.isAboutStack =
      (StackMachine.start memory).reports I rows ++
        ((StackMachine.start memory).run I rows).endReport rows := by
  have hstart : ({} : Expression).Tracks (StackMachine.start (α := α) memory).stack.length := .empty
  have hend := hstart.after I rows
  rw [listingIssues, List.filter_append, filter_rowIssues I mark hstart,
    endIssues_eq_endReport hend, List.append_cancel_left_eq, List.filter_eq_self]
  intro issue hissue
  rw [Issue.isAboutStack, StackMachine.problem_of_mem_endReport hissue]
  simp

theorem unresolvedBranches_mem_listingIssues_iff (mark : String) (memory : μ) (rows : List Row) :
    (∃ issue ∈ listingIssues mark rows, issue.problem = .unresolvedBranches) ↔
      2 ≤ ((StackMachine.start memory).run I rows).stack.length := by
  have hstart : ({} : Expression).Tracks (StackMachine.start (α := α) memory).stack.length := .empty
  have hend := hstart.after I rows
  constructor
  · rintro ⟨issue, hissue, hproblem⟩
    have hmem : issue ∈ (listingIssues mark rows).filter Issue.isAboutStack :=
      List.mem_filter.mpr ⟨hissue, by simp [Issue.isAboutStack, hproblem]⟩
    rw [filter_listingIssues I mark memory, List.mem_append] at hmem
    obtain hmem | hmem := hmem
    · exact absurd hproblem (StackMachine.problem_of_mem_reports I hmem)
    · refine Nat.lt_of_not_le fun hlow => ?_
      rw [StackMachine.endReport, if_pos hlow] at hmem
      cases hmem
  · intro hhigh
    have hbranches := hend.branches
    obtain ⟨row, hrow⟩ := Option.isSome_iff_exists.mp (hend.last (by omega))
    have hissues : (after {} rows).endIssues = [(Issue.warning row .unresolvedBranches).detail
        (toString (after {} rows).branches ++ " unresolved branches")] := by
      rw [endIssues, if_neg (by omega), hrow]
    exact ⟨_, List.mem_append_right _ (hissues ▸ List.mem_singleton_self _), rfl⟩

/-- The issues of a listing that are about the stack are exactly the reports of a machine that
starts with an empty stack, for all values and memories. At each row, the validator issues an error
other than a missing operand exactly when the machine is stuck there, and calls a call conditional
exactly when the stack is not empty. The warning at the end comes exactly when more than one value
is left. -/
theorem listingIssues_agree_with_stack (mark : String) (memory : μ) (rows : List Row) :
    (listingIssues mark rows).filter Issue.isAboutStack =
        (StackMachine.start memory).reports I rows ++
          ((StackMachine.start memory).run I rows).endReport rows ∧
      (∀ before row,
        ((∃ issue ∈ (after {} before).issues mark row,
            issue.isError ∧ issue.problem ≠ .missingOperand) ↔
          ((StackMachine.start memory).run I before).step I row = none) ∧
        ((∃ issue ∈ (after {} before).issues mark row, issue.problem = .conditionalCall) ↔
          (row.opcode? = some .call ∨ row.opcode? = some .callp) ∧
            ((StackMachine.start memory).run I before).stack ≠ [])) ∧
      ((∃ issue ∈ listingIssues mark rows, issue.problem = .unresolvedBranches) ↔
        2 ≤ ((StackMachine.start memory).run I rows).stack.length) := by
  refine ⟨filter_listingIssues I mark memory rows, fun before row => ?_,
    unresolvedBranches_mem_listingIssues_iff I mark memory rows⟩
  have hstart : ({} : Expression).Tracks (StackMachine.start (α := α) memory).stack.length := .empty
  have hbefore := hstart.after I before
  exact ⟨error_mem_issues_iff I hbefore mark row, conditionalCall_mem_issues_iff I hbefore mark row⟩

end Expression

end InterlockLadder
