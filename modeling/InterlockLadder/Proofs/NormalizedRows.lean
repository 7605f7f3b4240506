import InterlockLadder.Check.Listing
import InterlockLadder.Proofs.DoubleCoils
import Mathlib.Data.List.Forall2

/-! Validation sees the texts of a row only in normal form: an opcode without the blanks around it
and in capital letters, an operand without the blanks around it, and of a statement whether there
is one. Rows that agree so far (`Row.Alike`) take alike expressions to alike ones and give rise to
alike issues (`Row.Alike.issues`), and hence listings do so row by row (`validate_of_alike`). -/

namespace InterlockLadder

/-- The rows have the same numbers, and the same texts in normal form. -/
structure Row.Alike (row row' : Row) : Prop where
  key : row.key = row'.key
  step : row.step = row'.step
  opcode : Text.upper (Text.trim row.opcode) = Text.upper (Text.trim row'.opcode)
  operand : Text.trim row.operand = Text.trim row'.operand
  hasStatement : row.hasStatement = row'.hasStatement

/-- The issues report the same, apart from the opcode and the operand copied from their rows. -/
structure Issue.Alike (issue issue' : Issue) : Prop where
  key : issue.key = issue'.key
  step : issue.step = issue'.step
  severity : issue.severity = issue'.severity
  code : issue.code = issue'.code
  problem : issue.problem = issue'.problem
  message : issue.message = issue'.message

/-- The expressions are in the same state behind alike instructions. -/
structure Expression.Alike (e e' : Expression) : Prop where
  isOpen : e.isOpen = e'.isOpen
  branches : e.branches = e'.branches
  last : Option.Rel Row.Alike e.last e'.last

theorem Text.upper_eq_empty_iff {s : String} : upper s = "" ↔ s = "" := by
  rw [← String.toList_inj, ← String.toList_inj, toList_upper]
  exact List.map_eq_nil_iff

/-- A text is blank if nothing is left of it in normal form. -/
theorem Text.isBlank_iff_upper_trim {s : String} : isBlank s ↔ upper (trim s) = "" := by
  rw [upper_eq_empty_iff, trim_eq_empty_iff]

/-! ## Issues -/

namespace Issue

theorem message_detail (issue : Issue) (text : String) :
    (issue.detail text).message = issue.message ++ " (" ++ text ++ ")" := by
  rw [message, detail, List.foldl_append]
  rfl

theorem Alike.detail {issue issue' : Issue} (h : issue.Alike issue') (text : String) :
    (issue.detail text).Alike (issue'.detail text) where
  key := h.key
  step := h.step
  severity := h.severity
  code := h.code
  problem := h.problem
  message := by rw [message_detail, message_detail, h.message]

/-- Two choices by one condition are alike, if both of their outcomes are. -/
theorem forall₂_ite (c : Prop) [Decidable c] {xs xs' ys ys' : List Issue}
    (hxs : List.Forall₂ Alike xs xs') (hys : List.Forall₂ Alike ys ys') :
    List.Forall₂ Alike (if c then xs else ys) (if c then xs' else ys') := by
  split
  · exact hxs
  · exact hys

end Issue

/-! ## Rows -/

namespace Row.Alike

variable {row row' : Row} (h : row.Alike row')
include h

theorem hasBlankOpcode : row.hasBlankOpcode = row'.hasBlankOpcode := by
  rw [Bool.eq_iff_iff, Row.hasBlankOpcode, Row.hasBlankOpcode, Text.isBlank_iff_upper_trim,
    Text.isBlank_iff_upper_trim, h.opcode]

theorem hasBlankOperand : row.hasBlankOperand = row'.hasBlankOperand := by
  rw [Bool.eq_iff_iff, Row.hasBlankOperand, Row.hasBlankOperand, ← Text.trim_eq_empty_iff,
    ← Text.trim_eq_empty_iff, h.operand]

theorem opcode? : row.opcode? = row'.opcode? := by
  rw [Row.opcode?, Row.opcode?, Opcode.parse?, Opcode.parse?, h.opcode]

theorem role : row.role = row'.role := by
  rw [Row.role, Row.role, h.hasBlankOpcode, h.opcode?, h.hasStatement]

theorem isLiteral (mark : String) : row.isLiteral mark = row'.isLiteral mark := by
  rw [Row.isLiteral, Row.isLiteral, h.operand]

/-- The opcode enters the message in normal form. -/
theorem ofRow (severity : Severity) (problem : Problem) :
    (Issue.ofRow row severity problem).Alike (Issue.ofRow row' severity problem) where
  key := h.key
  step := h.step
  severity := rfl
  code := rfl
  problem := rfl
  message := by
    have hblank : Text.isBlank row.opcode = Text.isBlank row'.opcode := h.hasBlankOpcode
    rw [Issue.message, Issue.ofRow, Issue.message, hblank, h.opcode]
    rfl

end Row.Alike

/-! ## Expressions -/

namespace Expression

variable {e e' : Expression} {row row' : Row} {rows rows' : List Row} {mark : String}

theorem Alike.close (he : e.Alike e') : e.close.Alike e'.close :=
  ⟨rfl, rfl, he.last⟩

theorem Alike.act (he : e.Alike e') (family : Option Opcode.Family) :
    (e.act family).Alike (e'.act family) := by
  obtain _ | family := family
  · exact he
  cases family with
  | load inverted => exact ⟨rfl, by simp only [Expression.act, he.isOpen, he.branches], he.last⟩
  | block => exact ⟨he.isOpen, congrArg (· - 1) he.branches, he.last⟩
  | separator => exact he.close
  | logic | consume | call | noop => exact he

/-- Alike rows take alike expressions to alike ones. -/
theorem Alike.next (he : e.Alike e') (h : row.Alike row') : (e.next row).Alike (e'.next row') := by
  rw [Expression.next, Expression.next, h.role]
  cases row'.role with
  | comment => exact he.close
  | filler => exact he
  | instruction family =>
    have hlast : Expression.Alike { e with last := some row } { e' with last := some row' } :=
      ⟨he.isOpen, he.branches, .some h⟩
    exact hlast.act family

theorem Alike.after (he : e.Alike e') (h : List.Forall₂ Row.Alike rows rows') :
    (e.after rows).Alike (e'.after rows') := by
  induction h generalizing e e' with
  | nil => exact he
  | cons hrow _ ih => exact ih (he.next hrow)

theorem operandIssues_alike (h : row.Alike row') :
    List.Forall₂ Issue.Alike (operandIssues row) (operandIssues row') := by
  rw [operandIssues, operandIssues, h.hasBlankOperand]
  exact Issue.forall₂_ite _ (.cons (h.ofRow .error .missingOperand) .nil) .nil

theorem Alike.instructionIssues (he : e.Alike e') (h : row.Alike row')
    (family : Option Opcode.Family) :
    List.Forall₂ Issue.Alike (e.instructionIssues row family)
      (e'.instructionIssues row' family) := by
  have hone (severity : Severity) (problem : Problem) : List.Forall₂ Issue.Alike
      [.ofRow row severity problem] [.ofRow row' severity problem] :=
    .cons (h.ofRow severity problem) .nil
  obtain _ | family := family
  · exact hone .warning .unclassifiedInstruction
  simp only [Expression.instructionIssues, he.isOpen, he.branches]
  cases family with
  | load inverted => exact operandIssues_alike h
  | logic =>
    exact List.rel_append (Issue.forall₂_ite _ .nil (hone .error .opcodeBeforeLoad))
      (operandIssues_alike h)
  | block =>
    exact List.rel_append (Issue.forall₂_ite _ .nil (hone .error .opcodeBeforeLoad))
      (Issue.forall₂_ite _ (hone .error .blockWithoutBranch) .nil)
  | call =>
    exact Issue.forall₂_ite _ (.cons ((h.ofRow .warning .conditionalCall).detail _) .nil) .nil
  | consume =>
    exact List.rel_append (Issue.forall₂_ite _ (hone .error .noConditionExpression) .nil)
      (operandIssues_alike h)
  | separator | noop => exact .nil

/-- Alike expressions have alike issues with alike rows. -/
theorem Alike.issues (he : e.Alike e') (h : row.Alike row') :
    List.Forall₂ Issue.Alike (e.issues mark row) (e'.issues mark row') := by
  have hlast : e.last.isNone = e'.last.isNone := by
    have hrel := he.last
    generalize e.last = last, e'.last = last' at hrel
    cases hrel <;> rfl
  rw [Expression.issues, Expression.issues, h.role]
  cases row'.role with
  | comment => exact .nil
  | filler =>
    simp only [hlast, h.isLiteral]
    exact Issue.forall₂_ite _ (.cons (h.ofRow .warning .parameterWithoutInstruction) .nil) .nil
  | instruction family => exact he.instructionIssues h family

theorem Alike.rowIssues (he : e.Alike e') (h : List.Forall₂ Row.Alike rows rows') :
    List.Forall₂ Issue.Alike (e.rowIssues mark rows) (e'.rowIssues mark rows') := by
  induction h generalizing e e' with
  | nil => exact .nil
  | cons hrow _ ih => exact List.rel_append (he.issues hrow) (ih (he.next hrow))

theorem Alike.endIssues (he : e.Alike e') :
    List.Forall₂ Issue.Alike e.endIssues e'.endIssues := by
  rw [Expression.endIssues, Expression.endIssues, he.branches]
  refine Issue.forall₂_ite _ .nil ?_
  have hrel := he.last
  generalize e.last = last, e'.last = last' at hrel ⊢
  cases hrel with
  | none => exact .nil
  | some hrow => exact .cons ((hrow.ofRow .warning .unresolvedBranches).detail _) .nil

theorem listingIssues_alike (mark : String) (h : List.Forall₂ Row.Alike rows rows') :
    List.Forall₂ Issue.Alike (listingIssues mark rows) (listingIssues mark rows') := by
  have hstart : Expression.Alike {} {} := ⟨rfl, rfl, .none⟩
  exact List.rel_append (hstart.rowIssues h) (hstart.after h).endIssues

end Expression

/-! ## Double coils -/

namespace DoubleCoil

variable {row row' : Row} {rows rows' : List Row}

theorem device?_eq_of_alike (h : row.Alike row') : device? row = device? row' := by
  rw [device?, device?, h.opcode?, h.hasBlankOperand, h.operand]

theorem issue_alike (h : row.Alike row') : (issue row).Alike (issue row') := by
  rw [issue, issue, h.operand]
  exact (h.ofRow .warning .duplicateOutput).detail _

theorem issuesFrom_alike {seen : List String} (h : List.Forall₂ Row.Alike rows rows') :
    List.Forall₂ Issue.Alike (issuesFrom seen rows) (issuesFrom seen rows') := by
  induction h generalizing seen with
  | nil => exact .nil
  | @cons row row' _ _ hrow _ ih =>
    have hdevice := device?_eq_of_alike hrow
    cases hnone : device? row' with
    | none =>
      rw [issuesFrom_cons_of_none (hdevice.trans hnone), issuesFrom_cons_of_none hnone]
      exact ih
    | some device =>
      rw [issuesFrom_cons_of_some (hdevice.trans hnone), issuesFrom_cons_of_some hnone]
      exact Issue.forall₂_ite _ (.cons (issue_alike hrow) ih) ih

end DoubleCoil

/-! ## Listings -/

/-- **Validation depends on the texts of rows only in normal form.** Listings whose rows are alike
one by one have as many issues, and these are alike one by one: they differ at most in the opcode
and the operand that they copy. -/
theorem validate_of_alike (mark : String) {rows rows' : List Row}
    (h : List.Forall₂ Row.Alike rows rows') :
    List.Forall₂ Issue.Alike (validate mark rows) (validate mark rows') :=
  List.rel_append (Expression.listingIssues_alike mark h) (DoubleCoil.issuesFrom_alike h)

/-- A listing as somebody has typed it. -/
def typedListing : List Row :=
  [{ key := 1, opcode := " ld\t", operand := "X0 " },
    { key := 2, opcode := "out", operand := "y1" },
    { key := 3, opcode := " ", statement := some "next" },
    { key := 4, opcode := "Orb", operand := "  " },
    { key := 5, opcode := "out ", operand := " y1" }]

/-- The same listing in the form in which listings are generated. -/
def neatListing : List Row :=
  [{ key := 1, opcode := "LD", operand := "X0" }, { key := 2, opcode := "OUT", operand := "y1" },
    { key := 3, statement := some "condition 2" }, { key := 4, opcode := "ORB" },
    { key := 5, opcode := "OUT", operand := "y1" }]

/-- Both have the same four problems. -/
theorem validate_typedListing : List.Forall₂ Row.Alike typedListing neatListing ∧
    List.Forall₂ Issue.Alike (validate "K" typedListing) (validate "K" neatListing) ∧
    (validate "K" neatListing).map Issue.problem =
      [.opcodeBeforeLoad, .blockWithoutBranch, .noConditionExpression, .duplicateOutput] := by
  have halike : List.Forall₂ Row.Alike typedListing neatListing :=
    .cons ⟨rfl, rfl, by decide, by decide, by decide⟩ <|
    .cons ⟨rfl, rfl, by decide, by decide, by decide⟩ <|
    .cons ⟨rfl, rfl, by decide, by decide, by decide⟩ <|
    .cons ⟨rfl, rfl, by decide, by decide, by decide⟩ <|
    .cons ⟨rfl, rfl, by decide, by decide, by decide⟩ .nil
  exact ⟨halike, validate_of_alike "K" halike, by decide +kernel⟩

end InterlockLadder
