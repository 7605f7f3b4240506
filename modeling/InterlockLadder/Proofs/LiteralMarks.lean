import InterlockLadder.Check.Listing
import InterlockLadder.Proofs.DoubleCoils
import InterlockLadder.Proofs.Separation

/-! What the mark of literals decides. It takes no part in the state of an expression, and of the
issues only the warnings about parameters without an instruction depend on it
(`Expression.filter_rowIssues_eq`). These are about the parameters in front of the first instruction
(`Row.orphans`), for an instruction once seen is never forgotten. So a longer mark leaves a part of
the issues of a shorter one (`validate_under_marks`). -/

namespace InterlockLadder

namespace Row

/-- Whether the row has neither an instruction nor a statement, and its operand starts with the
mark. -/
def isParameter (mark : String) (row : Row) : Bool :=
  row.hasBlankOpcode && !row.hasStatement && decide (mark.toList <+: (Text.trim row.operand).toList)

/-- The parameters in front of the first instruction. -/
def orphans (mark : String) (rows : List Row) : List Row :=
  (rows.takeWhile hasBlankOpcode).filter (isParameter mark)

variable {mark p q : String} {row : Row} {rows : List Row}

theorem isLiteral_eq :
    row.isLiteral mark = decide (mark.toList <+: (Text.trim row.operand).toList) := by
  rw [Bool.eq_iff_iff, isLiteral, List.isPrefixOf_iff_prefix, decide_eq_true_iff]

theorem isLiteral_of_prefix (h : p.toList <+: q.toList) (hq : row.isLiteral q) :
    row.isLiteral p := by
  rw [isLiteral_eq, decide_eq_true_iff] at hq ⊢
  exact h.trans hq

theorem orphans_cons_of_not_hasBlankOpcode (h : row.hasBlankOpcode = false) :
    orphans mark (row :: rows) = [] := by
  rw [orphans, List.takeWhile_cons_of_neg (by simp [h])]
  rfl

theorem orphans_cons_of_hasBlankOpcode (h : row.hasBlankOpcode) : orphans mark (row :: rows) =
    (if row.isParameter mark then [row] else []) ++ orphans mark rows := by
  rw [orphans, List.takeWhile_cons_of_pos h, List.filter_cons]
  split <;> rfl

/-- Behind an instruction there are no more of them, whatever stands in between. -/
theorem orphans_append (h : rows.any fun row => !row.hasBlankOpcode) (rows' : List Row) :
    orphans mark (rows ++ rows') = orphans mark rows := by
  obtain ⟨row, hrow, hopcode⟩ := List.any_eq_true.mp h
  have hstop : (rows.takeWhile hasBlankOpcode).length ≠ rows.length := by
    intro hlength
    have hall := (List.takeWhile_prefix hasBlankOpcode).eq_of_length hlength
    have hblank := List.all_takeWhile (p := hasBlankOpcode) (l := rows)
    rw [hall] at hblank
    rw [List.all_eq_true.mp hblank row hrow] at hopcode
    cases hopcode
  rw [orphans, List.takeWhile_append, if_neg hstop]
  rfl

end Row

namespace Expression

variable {mark p q : String} {e : Expression} {row : Row} {rows : List Row}

/-! ## Issues that do not depend on the mark -/

theorem filter_issues_eq (p q : String) (e : Expression) (row : Row) :
    (e.issues p row).filter (·.problem ≠ .parameterWithoutInstruction) =
      (e.issues q row).filter (·.problem ≠ .parameterWithoutInstruction) := by
  cases hrole : row.role with
  | comment | instruction => simp only [issues, hrole]
  | filler =>
    have hnone : ∀ mark, (e.issues mark row).filter
        (·.problem ≠ .parameterWithoutInstruction) = [] := by
      intro mark
      simp only [issues, hrole]
      split <;> rfl
    rw [hnone, hnone]

theorem filter_rowIssues_eq (p q : String) (e : Expression) (rows : List Row) :
    (e.rowIssues p rows).filter (·.problem ≠ .parameterWithoutInstruction) =
      (e.rowIssues q rows).filter (·.problem ≠ .parameterWithoutInstruction) := by
  induction rows generalizing e with
  | nil => rfl
  | cons row rows ih =>
    rw [rowIssues, rowIssues, List.filter_append, List.filter_append, filter_issues_eq p q, ih]

/-! ## Warnings about parameters -/

theorem filter_instructionIssues_eq_nil (family : Option Opcode.Family) :
    (e.instructionIssues row family).filter (·.problem = .parameterWithoutInstruction) = [] := by
  rw [List.filter_eq_nil_iff]
  intro issue hissue
  obtain ⟨-, hproblem⟩ | ⟨-, hproblem⟩ := problem_of_mem_instructionIssues hissue
  · rintro h
    rw [of_decide_eq_true h] at hproblem
    simp [faults] at hproblem
  · rintro h
    rw [of_decide_eq_true h] at hproblem
    simp [doubts] at hproblem

/-- No warning comes behind an instruction. -/
theorem filter_rowIssues_of_last (instruction : Row) (h : e.last = some instruction) :
    (e.rowIssues mark rows).filter (·.problem = .parameterWithoutInstruction) = [] := by
  -- To remember the instruction again changes nothing, and spares the warnings.
  have hremember : e.remember (some instruction) = e := by
    rw [remember, h]
    exact congrArg (Expression.mk e.isOpen e.branches) h.symm
  have hissues : (e.remember (some instruction)).rowIssues mark rows =
      (e.rowIssues mark rows).filter (·.problem ≠ .parameterWithoutInstruction) :=
    rowIssues_remember_some instruction
  rw [hremember] at hissues
  rw [hissues, List.filter_filter]
  simp

/-- A row that is no instruction gives the warning exactly if it is a parameter. -/
theorem issues_of_last_eq_none (hlast : e.last = none) (h : row.hasBlankOpcode) :
    e.issues mark row = (if row.isParameter mark then [row] else []).map
      (Issue.warning · .parameterWithoutInstruction) := by
  rw [issues_of_hasBlankOpcode h, hlast, Row.isParameter, h, Row.isLiteral_eq,
    Option.isNone_none, Bool.true_and]
  split <;> rfl

/-- Without an instruction in front, there is a warning for each parameter before the first one. -/
theorem filter_rowIssues_of_last_eq_none (h : e.last = none) :
    (e.rowIssues mark rows).filter (·.problem = .parameterWithoutInstruction) =
      (Row.orphans mark rows).map (Issue.warning · .parameterWithoutInstruction) := by
  induction rows generalizing e with
  | nil => rfl
  | cons row rows ih =>
    have hlast := last_next e row
    rw [rowIssues, List.filter_append]
    cases hblank : row.hasBlankOpcode with
    | true =>
      rw [hblank, if_pos rfl, h] at hlast
      rw [issues_of_last_eq_none h hblank, ih hlast, Row.orphans_cons_of_hasBlankOpcode hblank,
        List.map_append]
      split <;> rfl
    | false =>
      rw [hblank, if_neg Bool.false_ne_true] at hlast
      rw [issues_of_not_hasBlankOpcode hblank, filter_instructionIssues_eq_nil,
        filter_rowIssues_of_last row hlast, Row.orphans_cons_of_not_hasBlankOpcode hblank]
      rfl

/-! ## Marks that extend one another -/

theorem issues_sublist (h : p.toList <+: q.toList) (e : Expression) (row : Row) :
    (e.issues q row).Sublist (e.issues p row) := by
  cases hrole : row.role with
  | comment | instruction => simp only [issues, hrole, List.Sublist.refl]
  | filler =>
    simp only [issues, hrole]
    split
    · next hq =>
      obtain ⟨hlast, hliteral⟩ := Bool.and_eq_true_iff.mp hq
      have hp : (e.last.isNone && row.isLiteral p) = true :=
        Bool.and_eq_true_iff.mpr ⟨hlast, Row.isLiteral_of_prefix h hliteral⟩
      simp only [hp, if_true, List.Sublist.refl]
    · exact List.nil_sublist _

theorem rowIssues_sublist (h : p.toList <+: q.toList) (e : Expression) (rows : List Row) :
    (e.rowIssues q rows).Sublist (e.rowIssues p rows) := by
  induction rows generalizing e with
  | nil => exact List.Sublist.refl _
  | cons row rows ih => exact (issues_sublist h e row).append (ih (e.next row))

end Expression

variable {mark p q : String} {rows : List Row}

/-- Neither the end of the listing nor its double coils bring a warning about a parameter. -/
theorem filter_validate :
    (validate mark rows).filter (·.problem = .parameterWithoutInstruction) =
      (Row.orphans mark rows).map (Issue.warning · .parameterWithoutInstruction) := by
  have hend : (Expression.after {} rows).endIssues.filter
      (·.problem = .parameterWithoutInstruction) = [] := by
    refine List.filter_eq_nil_iff.mpr fun issue hissue => ?_
    obtain ⟨row, -, rfl⟩ := Expression.eq_of_mem_endIssues hissue
    simp
  have hcoils : (DoubleCoil.issues rows).filter
      (·.problem = .parameterWithoutInstruction) = [] := by
    refine List.filter_eq_nil_iff.mpr fun issue hissue => ?_
    simp [(DoubleCoil.problem_of_mem_issuesFrom hissue).1]
  rw [validate, Expression.listingIssues, List.filter_append, List.filter_append, hend, hcoils,
    Expression.filter_rowIssues_of_last_eq_none rfl, List.append_nil, List.append_nil]

/-- **The mark of literals only decides the warnings about parameters.** All other issues are the
same under every mark, in the same order. There is one warning for each parameter in front of the
first instruction, so behind an instruction there is none whatever stands in between, and a longer
mark leaves a part of the issues. -/
theorem validate_under_marks (p q : String) (rows : List Row) :
    (validate p rows).filter (·.problem ≠ .parameterWithoutInstruction) =
        (validate q rows).filter (·.problem ≠ .parameterWithoutInstruction) ∧
      (validate p rows).filter (·.problem = .parameterWithoutInstruction) =
        (Row.orphans p rows).map (Issue.warning · .parameterWithoutInstruction) ∧
      (p.toList <+: q.toList → (validate q rows).Sublist (validate p rows)) ∧
      ∀ rows', rows.any (fun row => !row.hasBlankOpcode) →
        (validate p (rows ++ rows')).filter (·.problem = .parameterWithoutInstruction) =
          (validate p rows).filter (·.problem = .parameterWithoutInstruction) := by
  refine ⟨?_, filter_validate, fun h => ?_, fun rows' h => ?_⟩
  · simp only [validate, Expression.listingIssues, List.filter_append]
    rw [Expression.filter_rowIssues_eq p q]
  · exact ((Expression.rowIssues_sublist h {} rows).append_right _).append_right _
  · rw [filter_validate, filter_validate, Row.orphans_append h]

/-- Two parameters with a comment in between, a rung, and behind a comment a third one. -/
def markedRows : List Row :=
  [{ key := 1, operand := "K5" }, { key := 2, statement := some "start" },
    { key := 3, operand := " KX1" }, { key := 4, opcode := "LD", operand := "X0" },
    { key := 5, statement := some "next" }, { key := 6, operand := "K7" }]

/-- The longer mark leaves the second of them, and neither takes the third for one. -/
theorem validate_markedRows :
    "K".toList <+: "KX".toList ∧ (validate "KX" markedRows).Sublist (validate "K" markedRows) ∧
      (validate "K" markedRows).map (·.key) = [1, 3] ∧
      (validate "KX" markedRows).map (·.key) = [3] ∧
      (markedRows.take 4).any (fun row => !row.hasBlankOpcode) ∧
      (validate "K" (markedRows.take 4 ++ markedRows.drop 4)).filter
          (·.problem = .parameterWithoutInstruction) =
        (validate "K" (markedRows.take 4)).filter (·.problem = .parameterWithoutInstruction) := by
  have hlonger : "K".toList <+: "KX".toList := by decide +kernel
  have hany : (markedRows.take 4).any (fun row => !row.hasBlankOpcode) := by decide +kernel
  obtain ⟨-, -, hsublist, -⟩ := validate_under_marks "K" "KX" markedRows
  obtain ⟨-, -, -, hbehind⟩ := validate_under_marks "K" "KX" (markedRows.take 4)
  exact ⟨hlonger, hsublist hlonger, by decide +kernel, by decide +kernel, hany, hbehind _ hany⟩

end InterlockLadder
