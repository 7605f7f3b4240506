import InterlockLadder.Proofs.Separation
import Mathlib.Data.List.DropRight

/-! The expression of the rung that is open, an invariant of listings. The rung are the rows behind
the last comment or separator (`Row.rung`). The expression is open exactly if the rung has a load,
only an open one has branches, and then the latest instruction is one of the rung
(`Expression.Follows`). Each row keeps this, so it holds behind every part of a listing, and what
the validator asks about branches besides is settled by it (`Expression.invariant_after`). -/

namespace InterlockLadder

namespace Row

/-- The row is a load. -/
def Loads (row : Row) : Prop :=
  ∃ inverted, row.opcode?.map Opcode.family = some (.load inverted)

/-- The rows behind the last comment or separator. -/
def rung (rows : List Row) : List Row :=
  rows.rtakeWhile fun row => !row.separates

variable {row : Row}

theorem rung_append_of_separates (h : row.separates) (rows : List Row) :
    rung (rows ++ [row]) = [] :=
  List.rtakeWhile_concat_neg _ _ _ (by simp [h])

theorem rung_append_of_not_separates (h : row.separates = false) (rows : List Row) :
    rung (rows ++ [row]) = rung rows ++ [row] :=
  List.rtakeWhile_concat_pos _ _ _ (by simp [h])

theorem not_loads_of_hasBlankOpcode (h : row.hasBlankOpcode) : ¬row.Loads := by
  rintro ⟨inverted, hload⟩
  obtain ⟨op, hop, -⟩ := Option.map_eq_some_iff.mp hload
  rw [hasBlankOpcode_of_opcode? hop] at h
  cases h

theorem exists_loads_append (rows : List Row) (row : Row) :
    (∃ other ∈ rows ++ [row], other.Loads) ↔ (∃ other ∈ rows, other.Loads) ∨ row.Loads := by
  simp [or_and_right, exists_or]

/-- Of the instructions, only the separator is of its family. -/
theorem separates_of_family (h : row.opcode?.map Opcode.family = some .separator) :
    row.separates := by
  obtain ⟨op, hop, hfamily⟩ := Option.map_eq_some_iff.mp h
  have hnoplf : ∀ op ∈ Opcode.all, op.family = .separator → op = .noplf := by decide
  rw [hnoplf op (Opcode.mem_all op) hfamily] at hop
  simp [separates, hop]

end Row

namespace Expression

variable {e : Expression} {row : Row} {rung rows : List Row}

/-- The expression is the one behind the rows of a rung. -/
structure Follows (e : Expression) (rung : List Row) : Prop where
  /-- It was opened by a load. -/
  isOpen_iff : e.isOpen ↔ ∃ row ∈ rung, row.Loads
  /-- There are no branches of an expression that is not open. -/
  isOpen_of_branches : 0 < e.branches → e.isOpen
  /-- The latest instruction is one of the rung, once there is a load. -/
  last_mem : e.isOpen → ∃ front row back, rung = front ++ row :: back ∧ e.last = some row ∧
    row.hasBlankOpcode = false ∧ ∀ other ∈ back, other.hasBlankOpcode

namespace Follows

theorem empty : ({} : Expression).Follows [] :=
  ⟨by simp, fun h => absurd h (Nat.lt_irrefl 0), nofun⟩

theorem close (e : Expression) : e.close.Follows [] :=
  ⟨by simp [Expression.close], fun h => absurd h (Nat.lt_irrefl 0), nofun⟩

theorem next_of_separates (h : row.separates) (e : Expression) : (e.next row).Follows [] := by
  obtain h | h := Bool.or_eq_true_iff.mp h
  · rw [next, Row.role_of_isComment h]
    exact close e
  · rw [next, Row.role_of_opcode? (of_decide_eq_true h)]
    exact close _

/-- A row without an instruction changes nothing, unless it is a comment. -/
theorem next_of_hasBlankOpcode (h : e.Follows rung) (hblank : row.hasBlankOpcode)
    (hseparates : row.separates = false) : (e.next row).Follows (rung ++ [row]) := by
  have hstatement : row.hasStatement = false := by
    simp only [Row.separates, Row.isComment, hblank, Bool.true_and, Bool.or_eq_false_iff]
      at hseparates
    exact hseparates.1
  have hnext : e.next row = e := by simp [next, Row.role, hblank, hstatement]
  rw [hnext]
  refine ⟨h.isOpen_iff.trans ?_, h.isOpen_of_branches, fun hopen => ?_⟩
  · rw [Row.exists_loads_append, or_iff_left (Row.not_loads_of_hasBlankOpcode hblank)]
  · obtain ⟨front, latest, back, rfl, hlast, hopcode, hback⟩ := h.last_mem hopen
    refine ⟨front, latest, back ++ [row], by simp, hlast, hopcode, fun other hother => ?_⟩
    obtain hother | hother := List.mem_append.mp hother
    · exact hback other hother
    · rwa [List.mem_singleton.mp hother]

/-- An instruction becomes the latest one. Only a load opens the expression, and only an open one
gets a branch. -/
theorem next_of_not_hasBlankOpcode (h : e.Follows rung) (hblank : row.hasBlankOpcode = false)
    (hseparates : row.separates = false) : (e.next row).Follows (rung ++ [row]) := by
  have hlast : (e.next row).last = some row := by
    rw [last_next, hblank]
    rfl
  have hstep : ((e.next row).isOpen ↔ e.isOpen ∨ row.Loads) ∧
      (0 < (e.next row).branches → (e.next row).isOpen) := by
    have hbranches := h.isOpen_of_branches
    rw [next, Row.role_of_not_hasBlankOpcode hblank, Row.Loads]
    cases hfamily : row.opcode?.map Opcode.family with
    | none => simpa [act] using hbranches
    | some family =>
      cases family with
      | load inverted => simp [act]
      | block =>
        have hfewer : 0 < e.branches - 1 → e.isOpen := fun hmore => hbranches (by omega)
        simpa [act] using hfewer
      | separator => simp [Row.separates_of_family hfamily] at hseparates
      | logic | consume | call | noop => simpa [act] using hbranches
  refine ⟨?_, hstep.2, fun _ => ⟨rung, row, [], rfl, hlast, hblank, List.forall_mem_nil _⟩⟩
  rw [hstep.1, h.isOpen_iff, Row.exists_loads_append]

/-- A row continues the rung or ends it. -/
theorem next (h : e.Follows (Row.rung rows)) (row : Row) :
    (e.next row).Follows (Row.rung (rows ++ [row])) := by
  cases hseparates : row.separates with
  | true =>
    rw [Row.rung_append_of_separates hseparates]
    exact next_of_separates hseparates e
  | false =>
    rw [Row.rung_append_of_not_separates hseparates]
    cases hblank : row.hasBlankOpcode with
    | true => exact h.next_of_hasBlankOpcode hblank hseparates
    | false => exact h.next_of_not_hasBlankOpcode hblank hseparates

end Follows

/-- Behind any rows, the expression is that of their last rung. -/
theorem follows_after (rows : List Row) : (after {} rows).Follows (Row.rung rows) := by
  induction rows using List.reverseRecOn with
  | nil => exact .empty
  | append_singleton rows row ih =>
    rw [after_append]
    exact ih.next row

/-! ## What follows for the issues -/

section
variable {mark : String}

theorem issues_of_family {family : Opcode.Family}
    (h : row.opcode?.map Opcode.family = some family) :
    e.issues mark row = e.instructionIssues row (some family) := by
  obtain ⟨op, hop, hfamily⟩ := Option.map_eq_some_iff.mp h
  rw [issues, Row.role_of_opcode? hop, hfamily]

theorem next_of_family {family : Opcode.Family}
    (h : row.opcode?.map Opcode.family = some family) :
    e.next row = { e with last := some row }.act (some family) := by
  obtain ⟨op, hop, hfamily⟩ := Option.map_eq_some_iff.mp h
  rw [next, Row.role_of_opcode? hop, hfamily]

namespace Follows

variable (h : e.Follows rung)
include h

theorem endIssues_of_branches (hbranches : 0 < e.branches) : ∃ row, e.last = some row ∧
    e.endIssues = [(Issue.warning row .unresolvedBranches).detail
      (toString e.branches ++ " unresolved branches")] := by
  obtain ⟨_, row, _, -, hlast, -⟩ := h.last_mem (h.isOpen_of_branches hbranches)
  refine ⟨row, hlast, ?_⟩
  rw [endIssues, if_neg (Nat.ne_of_gt hbranches), hlast]

/-- An expression that is not open has no branch to be combined. -/
theorem branches_of_not_isOpen (hclosed : e.isOpen = false) : e.branches = 0 := by
  refine Nat.eq_zero_of_not_pos fun hbranches => ?_
  rw [h.isOpen_of_branches hbranches] at hclosed
  cases hclosed

theorem blockWithoutBranch_of_opcodeBeforeLoad
    (hblock : row.opcode?.map Opcode.family = some .block)
    (hissue : .error row .opcodeBeforeLoad ∈ e.issues mark row) :
    .error row .blockWithoutBranch ∈ e.issues mark row := by
  rw [issues_of_family hblock] at hissue ⊢
  cases hopen : e.isOpen with
  | true => cases e.branches <;> simp_all [instructionIssues, Issue.error, Issue.ofRow]
  | false => simp [instructionIssues, h.branches_of_not_isOpen hopen]

theorem issues_of_call (hcall : row.opcode?.map Opcode.family = some .call) :
    e.issues mark row = if e.isOpen then
      [(Issue.warning row .conditionalCall).detail "consider an unconditional separator"]
    else [] := by
  rw [issues_of_family hcall]
  cases hopen : e.isOpen with
  | true => simp [instructionIssues, hopen]
  | false => simp [instructionIssues, hopen, h.branches_of_not_isOpen hopen]

theorem issues_of_consume (hconsume : row.opcode?.map Opcode.family = some .consume) :
    e.issues mark row =
      (if e.isOpen then [] else [.error row .noConditionExpression]) ++ operandIssues row := by
  rw [issues_of_family hconsume]
  cases hopen : e.isOpen with
  | true => simp [instructionIssues, hopen]
  | false => simp [instructionIssues, hopen, h.branches_of_not_isOpen hopen]

end Follows

/-- A block instruction takes away one branch, or it is reported since there is none. -/
theorem branches_next_of_block (hblock : row.opcode?.map Opcode.family = some .block) :
    .error row .blockWithoutBranch ∈ e.issues mark row ∧ e.branches = 0 ∧
        (e.next row).branches = 0 ∨
      .error row .blockWithoutBranch ∉ e.issues mark row ∧
        (e.next row).branches + 1 = e.branches := by
  rw [issues_of_family hblock, next_of_family hblock]
  cases hbranches : e.branches with
  | zero => exact .inl ⟨by simp [instructionIssues, hbranches], rfl, by simp [act]⟩
  | succ n =>
    refine .inr ⟨?_, by simp [act]⟩
    cases hopen : e.isOpen <;>
      simp [instructionIssues, hbranches, hopen, Issue.error, Issue.ofRow]

end

/-- **The state behind any rows of a listing.** If branches wait, the expression is open and the
latest instruction is remembered and stands behind the last comment or separator. The expression is
open exactly if there is a load behind it. So branches left at the end are always reported, a block
instruction in front of which nothing is loaded also lacks a branch, calls and instructions that
read the expression depend on whether it is open alone, and branches are only taken away where there
are some. -/
theorem invariant_after (mark : String) (rows : List Row) :
    (0 < (after {} rows).branches → (after {} rows).isOpen ∧
      ∃ front row back, Row.rung rows = front ++ row :: back ∧ (after {} rows).last = some row ∧
        row.hasBlankOpcode = false ∧ ∀ other ∈ back, other.hasBlankOpcode) ∧
    ((after {} rows).isOpen ↔ ∃ row ∈ Row.rung rows, row.Loads) ∧
    (0 < (after {} rows).branches → ∃ row, (after {} rows).last = some row ∧
      (after {} rows).endIssues = [(Issue.warning row .unresolvedBranches).detail
        (toString (after {} rows).branches ++ " unresolved branches")]) ∧
    ∀ row,
      (row.opcode?.map Opcode.family = some .block →
        (.error row .opcodeBeforeLoad ∈ (after {} rows).issues mark row →
          .error row .blockWithoutBranch ∈ (after {} rows).issues mark row) ∧
        (.error row .blockWithoutBranch ∈ (after {} rows).issues mark row ∧
            (after {} rows).branches = 0 ∧ (after {} (rows ++ [row])).branches = 0 ∨
          .error row .blockWithoutBranch ∉ (after {} rows).issues mark row ∧
            (after {} (rows ++ [row])).branches + 1 = (after {} rows).branches)) ∧
      (row.opcode?.map Opcode.family = some .call → (after {} rows).issues mark row =
        if (after {} rows).isOpen then
          [(Issue.warning row .conditionalCall).detail "consider an unconditional separator"]
        else []) ∧
      (row.opcode?.map Opcode.family = some .consume → (after {} rows).issues mark row =
        (if (after {} rows).isOpen then [] else [.error row .noConditionExpression]) ++
          operandIssues row) := by
  have h := follows_after rows
  refine ⟨fun hbranches => ?_, h.isOpen_iff, h.endIssues_of_branches, fun row => ⟨fun hblock => ?_,
    h.issues_of_call, h.issues_of_consume⟩⟩
  · have hopen := h.isOpen_of_branches hbranches
    exact ⟨hopen, h.last_mem hopen⟩
  · rw [after_append]
    exact ⟨h.blockWithoutBranch_of_opcodeBeforeLoad hblock, branches_next_of_block hblock⟩

/-- A rung whose second load starts a branch. -/
def branchedRung : List Row :=
  [{ key := 1, opcode := "LD", operand := "X0" }, { key := 2, opcode := "LDI", operand := "X1" }]

def callRow : Row := { key := 3, opcode := "CALL", operand := "P0" }

def outRow : Row := { key := 3, opcode := "OUT", operand := "Y0" }

def nextStatement : Row := { key := 3, statement := some "next" }

def blockRow : Row := { key := 4, opcode := "ORB" }

/-- In the rung a call is conditional, an output has its expression, and the branch is reported if
the rows end there. Behind the statement a block instruction has neither an expression nor a
branch. -/
theorem invariant_branchedRung :
    (0 < (after {} branchedRung).branches ∧ (after {} branchedRung).isOpen ∧
      ∃ row, (after {} branchedRung).last = some row ∧
        (after {} branchedRung).endIssues = [(Issue.warning row .unresolvedBranches).detail
          (toString (after {} branchedRung).branches ++ " unresolved branches")]) ∧
    (callRow.opcode?.map Opcode.family = some .call ∧
      (after {} branchedRung).issues "K" callRow =
        [(Issue.warning callRow .conditionalCall).detail "consider an unconditional separator"]) ∧
    (outRow.opcode?.map Opcode.family = some .consume ∧
      (after {} branchedRung).issues "K" outRow = []) ∧
    (blockRow.opcode?.map Opcode.family = some .block ∧
      .error blockRow .opcodeBeforeLoad ∈
        (after {} (branchedRung ++ [nextStatement])).issues "K" blockRow ∧
      .error blockRow .blockWithoutBranch ∈
        (after {} (branchedRung ++ [nextStatement])).issues "K" blockRow) := by
  obtain ⟨hopen, -, hend, hnext⟩ := invariant_after "K" branchedRung
  obtain ⟨-, -, -, hbehind⟩ := invariant_after "K" (branchedRung ++ [nextStatement])
  have hbranches : 0 < (after {} branchedRung).branches := by decide +kernel
  have hcall : callRow.opcode?.map Opcode.family = some .call := by decide +kernel
  have hconsume : outRow.opcode?.map Opcode.family = some .consume := by decide +kernel
  have hblock : blockRow.opcode?.map Opcode.family = some .block := by decide +kernel
  have hbefore : .error blockRow .opcodeBeforeLoad ∈
      (after {} (branchedRung ++ [nextStatement])).issues "K" blockRow := by
    decide +kernel
  have hisOpen := (hopen hbranches).1
  refine ⟨⟨hbranches, hisOpen, hend hbranches⟩, ⟨hcall, ?_⟩, ⟨hconsume, ?_⟩, hblock, hbefore,
    ((hbehind blockRow).1 hblock).1 hbefore⟩
  · rw [(hnext callRow).2.1 hcall, if_pos hisOpen]
  · rw [(hnext outRow).2.2 hconsume, if_pos hisOpen]
    decide +kernel

end Expression

end InterlockLadder
