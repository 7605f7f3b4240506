import InterlockLadder.Proofs.StackAbstraction

/-! Listings one behind the other. A comment or separator at the cut closes the expression, so all
that the part in front leaves to the part behind is its latest instruction (`Expression.remember`).
That instruction only spares the part behind the warnings about parameters without an instruction,
which makes validation compositional (`Expression.listingIssues_append_of_separates`). -/

namespace InterlockLadder

/-- Whether the row ends the expression in front of it: a comment or a separator. -/
def Row.separates (row : Row) : Bool :=
  row.isComment || row.opcode? = some .noplf

namespace Issue

variable (row : Row) (problem : Problem) (issue : Issue) (text : String)

@[simp] theorem problem_error : (error row problem).problem = problem := rfl

@[simp] theorem problem_warning : (warning row problem).problem = problem := rfl

@[simp] theorem problem_detail : (issue.detail text).problem = issue.problem := rfl

@[simp] theorem isError_error : (error row problem).isError = true := rfl

@[simp] theorem isError_warning : (warning row problem).isError = false := rfl

@[simp] theorem isError_detail : (issue.detail text).isError = issue.isError := rfl

end Issue

namespace Expression

/-! ## Problems of rows -/

/-- The problems of rows that are errors. -/
def faults : List Problem :=
  [.opcodeBeforeLoad, .missingOperand, .blockWithoutBranch, .noConditionExpression]

/-- The problems of instructions that are only suspicious. -/
def doubts : List Problem :=
  [.conditionalCall, .unclassifiedInstruction]

variable {mark : String} {e : Expression} {row : Row} {rows : List Row} {issue : Issue}

theorem issues_of_not_hasBlankOpcode (h : row.hasBlankOpcode = false) :
    e.issues mark row = e.instructionIssues row (row.opcode?.map Opcode.family) := by
  rw [issues, Row.role_of_not_hasBlankOpcode h]

theorem issues_of_hasBlankOpcode (h : row.hasBlankOpcode) : e.issues mark row =
    if e.last.isNone && !row.hasStatement && row.isLiteral mark then
      [.warning row .parameterWithoutInstruction]
    else [] := by
  cases hstatement : row.hasStatement <;> simp [issues, Row.role, h, hstatement]

/-- An issue of an instruction is an error with a fault, or a warning with a doubt. -/
theorem eq_of_mem_instructionIssues {family : Option Opcode.Family}
    (h : issue ∈ e.instructionIssues row family) :
    (∃ problem ∈ faults, issue = .error row problem) ∨
      ∃ problem ∈ doubts, ∃ details, issue = { Issue.warning row problem with details } := by
  obtain _ | family := family
  · obtain rfl := List.mem_singleton.mp h
    exact .inr ⟨.unclassifiedInstruction, by decide, [], rfl⟩
  · cases family <;>
      simp only [instructionIssues, operandIssues, List.mem_append, List.mem_ite_nil_left,
        List.mem_ite_nil_right, List.mem_singleton, List.not_mem_nil] at h
    case load =>
      obtain ⟨-, rfl⟩ := h
      exact .inl ⟨_, by decide, rfl⟩
    case call =>
      obtain ⟨-, rfl⟩ := h
      exact .inr ⟨.conditionalCall, by decide, _, rfl⟩
    case logic | block | consume =>
      obtain ⟨-, rfl⟩ | ⟨-, rfl⟩ := h <;> exact .inl ⟨_, by decide, rfl⟩

theorem eq_of_mem_issues (h : issue ∈ e.issues mark row) :
    (∃ problem ∈ faults, issue = .error row problem) ∨
      ∃ problem ∈ .parameterWithoutInstruction :: doubts, ∃ details,
        issue = { Issue.warning row problem with details } := by
  rw [issues] at h
  split at h
  · cases h
  · simp only [List.mem_ite_nil_right, List.mem_singleton] at h
    obtain ⟨-, rfl⟩ := h
    exact .inr ⟨.parameterWithoutInstruction, List.mem_cons_self, [], rfl⟩
  · refine (eq_of_mem_instructionIssues h).imp_right ?_
    rintro ⟨problem, hdoubt, hissue⟩
    exact ⟨problem, List.mem_cons_of_mem _ hdoubt, hissue⟩

theorem problem_of_mem_instructionIssues {family : Option Opcode.Family}
    (h : issue ∈ e.instructionIssues row family) :
    issue.isError ∧ issue.problem ∈ faults ∨ issue.isError = false ∧ issue.problem ∈ doubts := by
  obtain ⟨problem, hfault, rfl⟩ | ⟨problem, hdoubt, details, rfl⟩ := eq_of_mem_instructionIssues h
  · exact .inl ⟨rfl, hfault⟩
  · exact .inr ⟨rfl, hdoubt⟩

theorem problem_of_mem_issues (h : issue ∈ e.issues mark row) :
    issue.isError ∧ issue.problem ∈ faults ∨
      issue.isError = false ∧ issue.problem ∈ .parameterWithoutInstruction :: doubts := by
  obtain ⟨problem, hfault, rfl⟩ | ⟨problem, hdoubt, details, rfl⟩ := eq_of_mem_issues h
  · exact .inl ⟨rfl, hfault⟩
  · exact .inr ⟨rfl, hdoubt⟩

theorem problem_of_mem_rowIssues (h : issue ∈ e.rowIssues mark rows) :
    issue.isError ∧ issue.problem ∈ faults ∨
      issue.isError = false ∧ issue.problem ∈ .parameterWithoutInstruction :: doubts := by
  induction rows generalizing e with
  | nil => cases h
  | cons row rows ih =>
    obtain h | h := List.mem_append.mp h
    · exact problem_of_mem_issues h
    · exact ih h

theorem eq_of_mem_endIssues (h : issue ∈ e.endIssues) : ∃ row, e.last = some row ∧
    issue = (Issue.warning row .unresolvedBranches).detail
      (toString e.branches ++ " unresolved branches") := by
  rw [endIssues] at h
  split at h
  · cases h
  · split at h
    · cases h
    · next row hlast => exact ⟨row, hlast, List.mem_singleton.mp h⟩

/-- Only the warning at the end is about unresolved branches. -/
theorem filter_listingIssues_ne_unresolvedBranches :
    (listingIssues mark rows).filter (·.problem ≠ .unresolvedBranches) =
      rowIssues mark {} rows := by
  have hrows : ∀ issue ∈ rowIssues mark {} rows, issue.problem ≠ .unresolvedBranches := by
    intro issue hissue hproblem
    have hkind := problem_of_mem_rowIssues hissue
    simp [hproblem, faults, doubts] at hkind
  have hend : ∀ issue ∈ (after {} rows).endIssues, issue.problem = .unresolvedBranches := by
    intro issue hissue
    obtain ⟨row, -, rfl⟩ := eq_of_mem_endIssues hissue
    rfl
  rw [listingIssues, List.filter_append,
    List.filter_eq_self.mpr fun issue hissue => decide_eq_true (hrows issue hissue),
    List.filter_eq_nil_iff.mpr fun issue hissue => by simp [hend issue hissue], List.append_nil]

/-! ## The latest instruction of an earlier part -/

/-- The expression, as it is when an earlier part of the listing has a latest instruction. -/
def remember (earlier : Option Row) (e : Expression) : Expression :=
  { e with last := e.last.or earlier }

variable {earlier : Option Row}

theorem remember_none (e : Expression) : e.remember none = e := by
  rw [remember, Option.or_none]

theorem act_remember (e : Expression) (family : Option Opcode.Family) :
    (e.remember earlier).act family = (e.act family).remember earlier := by
  obtain _ | family := family
  · rfl
  · cases family <;> rfl

/-- What a row does to an expression does not depend on earlier instructions. -/
theorem next_remember (e : Expression) (row : Row) :
    (e.remember earlier).next row = (e.next row).remember earlier := by
  cases hrole : row.role with
  | comment => simp only [next, hrole]; rfl
  | filler => simp only [next, hrole]
  | instruction family =>
    simp only [next, hrole]
    exact act_remember { e with last := some row } family

theorem after_remember (e : Expression) (rows : List Row) :
    (e.remember earlier).after rows = (e.after rows).remember earlier := by
  induction rows generalizing e with
  | nil => rfl
  | cons row rows ih =>
    change ((e.remember earlier).next row).after rows = ((e.next row).after rows).remember earlier
    rw [next_remember, ih]

/-- An earlier instruction spares the warnings about parameters, and changes nothing else. -/
theorem issues_remember_some (instruction : Row) :
    (e.remember (some instruction)).issues mark row =
      (e.issues mark row).filter (·.problem ≠ .parameterWithoutInstruction) := by
  cases hrole : row.role with
  | comment => simp only [issues, hrole]; rfl
  | filler =>
    have hlast : (e.remember (some instruction)).last.isNone = false := by simp [remember]
    simp only [issues, hrole, hlast, Bool.false_and, Bool.false_eq_true, if_false]
    split <;> simp
  | instruction family =>
    simp only [issues, hrole]
    have hproblem : ∀ issue ∈ e.instructionIssues row family,
        issue.problem ≠ .parameterWithoutInstruction := by
      intro issue hissue hproblem
      have hkind := problem_of_mem_instructionIssues hissue
      simp [hproblem, faults, doubts] at hkind
    exact (List.filter_eq_self.mpr fun issue hissue => by simp [hproblem issue hissue]).symm

theorem rowIssues_remember_some (instruction : Row) :
    (e.remember (some instruction)).rowIssues mark rows =
      (e.rowIssues mark rows).filter (·.problem ≠ .parameterWithoutInstruction) := by
  induction rows generalizing e with
  | nil => rfl
  | cons row rows ih =>
    rw [rowIssues, rowIssues, List.filter_append, issues_remember_some, next_remember, ih]

/-- Wherever branches are left, there is an instruction that left them. -/
theorem isSome_last_after (h : (after {} rows).branches ≠ 0) : (after {} rows).last.isSome := by
  -- The values on the stack do not matter, only how many there are.
  have hstart : ({} : Expression).Tracks
      (StackMachine.start () : StackMachine Unit Unit).stack.length := .empty
  have hend := hstart.after ⟨fun _ _ _ => (), fun _ _ _ _ => (), fun _ _ _ => (),
    fun _ _ _ _ => ()⟩ rows
  exact hend.last (by have := hend.branches; omega)

/-- So the warning at the end names an instruction of the part behind. -/
theorem endIssues_remember (h : e.branches ≠ 0 → e.last.isSome) :
    (e.remember earlier).endIssues = e.endIssues := by
  by_cases hbranches : e.branches = 0
  · simp [endIssues, remember, hbranches]
  · obtain ⟨row, hlast⟩ := Option.isSome_iff_exists.mp (h hbranches)
    simp [endIssues, remember, hlast]

/-! ## The cut -/

/-- Behind a row that separates, nothing is left of an expression but its latest instruction. -/
theorem next_of_separates (h : row.separates) (e : Expression) :
    e.next row = (({} : Expression).next row).remember e.last := by
  obtain h | h := Bool.or_eq_true_iff.mp h
  · simp only [next, Row.role_of_isComment h]
    rfl
  · simp only [next, Row.role_of_opcode? (of_decide_eq_true h)]
    rfl

theorem issues_of_separates (h : row.separates) (e : Expression) : e.issues mark row = [] := by
  obtain h | h := Bool.or_eq_true_iff.mp h
  · simp only [issues, Row.role_of_isComment h]
  · simp only [issues, Row.role_of_opcode? (of_decide_eq_true h)]
    rfl

theorem rowIssues_of_separates (h : row.separates) (e : Expression) :
    e.rowIssues mark (row :: rows) = (remember e.last {}).rowIssues mark (row :: rows) := by
  rw [rowIssues, rowIssues, issues_of_separates h, issues_of_separates h, next_remember,
    ← next_of_separates h]

theorem after_of_separates (h : row.separates) (e : Expression) :
    e.after (row :: rows) = (after {} (row :: rows)).remember e.last := by
  change (e.next row).after rows = ((({} : Expression).next row).after rows).remember e.last
  rw [next_of_separates h, after_remember]

theorem rowIssues_append (e : Expression) (a b : List Row) :
    e.rowIssues mark (a ++ b) = e.rowIssues mark a ++ (e.after a).rowIssues mark b := by
  induction a generalizing e with
  | nil => rfl
  | cons row a ih =>
    rw [List.cons_append, rowIssues, rowIssues, ih, List.append_assoc]
    rfl

theorem after_append (e : Expression) (a b : List Row) :
    e.after (a ++ b) = (e.after a).after b :=
  List.foldl_append

theorem last_after_eq_none_iff :
    (after {} rows).last = none ↔ rows.any (fun row => !row.hasBlankOpcode) = false := by
  rw [last_after, Option.or_none, List.getLast?_eq_none_iff, List.filter_eq_nil_iff,
    List.any_eq_false]

/-- Behind a comment or separator, an earlier instruction spares the warnings about parameters. -/
theorem rowIssues_after_of_separates (h : row.separates) (a : List Row) :
    (after {} a).rowIssues mark (row :: rows) =
      if a.any (fun row => !row.hasBlankOpcode) then
        (rowIssues mark {} (row :: rows)).filter (·.problem ≠ .parameterWithoutInstruction)
      else rowIssues mark {} (row :: rows) := by
  rw [rowIssues_of_separates h]
  cases hlast : (after {} a).last with
  | none => rw [remember_none, last_after_eq_none_iff.mp hlast, if_neg Bool.false_ne_true]
  | some instruction =>
    have hany : a.any (fun row => !row.hasBlankOpcode) := by
      refine Bool.of_not_eq_false fun hnone => ?_
      rw [last_after_eq_none_iff.mpr hnone] at hlast
      cases hlast
    rw [if_pos hany, rowIssues_remember_some]

theorem endIssues_append_of_separates (h : row.separates) (a : List Row) :
    (after {} (a ++ row :: rows)).endIssues = (after {} (row :: rows)).endIssues := by
  rw [after_append, after_of_separates h, endIssues_remember isSome_last_after]

theorem problem_of_mem_listingIssues (h : issue ∈ listingIssues mark rows)
    (herror : issue.isError) : issue.problem ∈ faults := by
  obtain h | h := List.mem_append.mp h
  · obtain ⟨-, hfault⟩ | ⟨hno, -⟩ := problem_of_mem_rowIssues h
    · exact hfault
    · rw [hno] at herror
      cases herror
  · obtain ⟨row, -, rfl⟩ := eq_of_mem_endIssues h
    cases herror

/-- Leaving out the issues of a problem that is no fault leaves all errors. -/
theorem filter_isError_filter {problem : Problem} (h : problem ∉ faults) :
    ((listingIssues mark rows).filter (·.problem ≠ problem)).filter Issue.isError =
      (listingIssues mark rows).filter Issue.isError := by
  rw [List.filter_filter]
  refine List.filter_congr fun issue hissue => ?_
  cases herror : issue.isError with
  | false => rfl
  | true =>
    have hne : issue.problem ≠ problem := fun heq =>
      h (heq ▸ problem_of_mem_listingIssues hissue herror)
    simp [hne]

/-- **Validation is compositional at a comment or separator.** The issues of two listings one
behind the other are those of the first without the warning at its end, and then those of the
second. If the first has an instruction, there are no warnings about parameters of the second. So
the errors are those of both parts, and a warning at the end names the last instruction of the
second. -/
theorem listingIssues_append_of_separates (mark : String) {a b : List Row}
    (h : b.head?.any Row.separates) :
    listingIssues mark (a ++ b) =
        (listingIssues mark a).filter (·.problem ≠ .unresolvedBranches) ++
          (if a.any (fun row => !row.hasBlankOpcode) then
            (listingIssues mark b).filter (·.problem ≠ .parameterWithoutInstruction)
          else listingIssues mark b) ∧
      (listingIssues mark (a ++ b)).filter Issue.isError =
        (listingIssues mark a).filter Issue.isError ++
          (listingIssues mark b).filter Issue.isError ∧
      ∀ issue ∈ listingIssues mark (a ++ b), issue.problem = .unresolvedBranches →
        ∃ row, (b.filter fun row => !row.hasBlankOpcode).getLast? = some row ∧
          issue = (Issue.warning row .unresolvedBranches).detail
            (toString (after {} b).branches ++ " unresolved branches") := by
  obtain ⟨row, rows, rfl, hrow⟩ : ∃ row rows, b = row :: rows ∧ row.separates := by
    cases b with
    | nil => cases h
    | cons row rows => exact ⟨row, rows, rfl, h⟩
  have hissues : listingIssues mark (a ++ row :: rows) =
      (listingIssues mark a).filter (·.problem ≠ .unresolvedBranches) ++
        (if a.any (fun row => !row.hasBlankOpcode) then
          (listingIssues mark (row :: rows)).filter (·.problem ≠ .parameterWithoutInstruction)
        else listingIssues mark (row :: rows)) := by
    have hend : (after {} (row :: rows)).endIssues.filter
        (·.problem ≠ .parameterWithoutInstruction) = (after {} (row :: rows)).endIssues := by
      refine List.filter_eq_self.mpr fun issue hissue => ?_
      obtain ⟨last, -, rfl⟩ := eq_of_mem_endIssues hissue
      rfl
    rw [filter_listingIssues_ne_unresolvedBranches, listingIssues, rowIssues_append,
      rowIssues_after_of_separates hrow, endIssues_append_of_separates hrow, listingIssues,
      List.append_assoc]
    split
    · rw [List.filter_append, hend]
    · rfl
  refine ⟨hissues, ?_, fun issue hissue hproblem => ?_⟩
  · rw [hissues, List.filter_append, filter_isError_filter (by decide)]
    split
    · rw [filter_isError_filter (by decide)]
    · rfl
  · obtain hissue | hissue := List.mem_append.mp hissue
    · have hkind := problem_of_mem_rowIssues hissue
      simp [hproblem, faults, doubts] at hkind
    · rw [endIssues_append_of_separates hrow] at hissue
      obtain ⟨last, hlast, rfl⟩ := eq_of_mem_endIssues hissue
      rw [last_after, Option.or_none] at hlast
      exact ⟨last, hlast, rfl⟩

/-- A rung with a branch that is never combined. -/
def looseRung : List Row :=
  [{ key := 1, opcode := "LD", operand := "X0" }, { key := 2, opcode := "LD", operand := "X1" }]

/-- Another one, with a comment and a parameter in front. -/
def commentedRung : List Row :=
  [{ key := 3, statement := some "next" }, { key := 4, operand := "K5" },
    { key := 5, opcode := "LD", operand := "X2" }, { key := 6, opcode := "LD", operand := "X3" }]

/-- The first rung loses its warning, and the parameter of the second has an instruction. -/
theorem listingIssues_looseRung_commentedRung :
    commentedRung.head?.any Row.separates ∧
      (listingIssues "K" looseRung).map (fun issue => (issue.key, issue.problem)) =
        [(2, .unresolvedBranches)] ∧
      (listingIssues "K" commentedRung).map (fun issue => (issue.key, issue.problem)) =
        [(4, .parameterWithoutInstruction), (6, .unresolvedBranches)] ∧
      (listingIssues "K" (looseRung ++ commentedRung)).map
        (fun issue => (issue.key, issue.problem)) = [(6, .unresolvedBranches)] := by
  have hseparates : commentedRung.head?.any Row.separates := by decide +kernel
  obtain ⟨hissues, -, -⟩ := listingIssues_append_of_separates "K" (a := looseRung) hseparates
  rw [hissues]
  decide +kernel

end Expression

end InterlockLadder
