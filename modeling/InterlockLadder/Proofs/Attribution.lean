import InterlockLadder.Check.Listing
import InterlockLadder.Proofs.DoubleCoils
import InterlockLadder.Proofs.Lists
import InterlockLadder.Proofs.Separation
import Mathlib.Data.List.DropRight

/-! The rows that issues are about, and the order of issues. Rows may be equal and keys may repeat,
so the issues are listed again with the positions of their rows (`located`). Forgetting the
positions gives the issues of validation: first those of the rows in order, then the one about the
branches left at the end, and then the double coils in order (`validate_eq_located`). -/

namespace InterlockLadder

/-! ## Issues with positions -/

/-- The issues that a rule finds, each with the position of its row. The rule is given a row and
those in front of it. -/
def located (rule : List Row → Row → List Issue) (rows : List Row) : List (Nat × Issue) :=
  rows.zipIdx.flatMap fun x => (rule (rows.take x.2) x.1).map (x.2, ·)

section
variable {rule : List Row → Row → List Issue}

/-- A run over the rows that takes the rule at each one finds the same issues. -/
theorem map_snd_located (run : List Row → List Row → List Issue) (hnil : ∀ front, run front [] = [])
    (hcons : ∀ front row back,
      run front (row :: back) = rule front row ++ run (front ++ [row]) back) (rows : List Row) :
    (located rule rows).map Prod.snd = run [] rows := by
  -- The rows in front grow along the run, and their number is the position of the next one.
  suffices hfrom : ∀ front, ((rows.zipIdx front.length).flatMap fun x =>
      (rule ((front ++ rows).take x.2) x.1).map (x.2, ·)).map Prod.snd = run front rows from
    hfrom []
  induction rows with
  | nil => exact fun front => (hnil front).symm
  | cons row rows ih =>
    intro front
    have hrest := ih (front ++ [row])
    rw [List.append_assoc, List.singleton_append, List.length_append, List.length_singleton]
      at hrest
    rw [List.zipIdx_cons, List.flatMap_cons, List.map_append, hrest, List.map_map, hcons,
      List.take_left]
    exact congrArg (· ++ _) (List.map_id _)

theorem mem_located {rows : List Row} {x : Nat × Issue} : x ∈ located rule rows ↔
    ∃ row, rows[x.1]? = some row ∧ x.2 ∈ rule (rows.take x.1) row := by
  simp only [located, List.mem_flatMap, List.mem_map]
  constructor
  · rintro ⟨y, hy, issue, hissue, rfl⟩
    exact ⟨y.1, List.mem_zipIdx_iff_getElem?.mp hy, hissue⟩
  · rintro ⟨row, hrow, hissue⟩
    exact ⟨(row, x.1), List.mem_zipIdx_iff_getElem?.mpr hrow, x.2, hissue, rfl⟩

theorem filter_located (rows : List Row) (i : Nat) :
    ((located rule rows).filter (·.1 = i)).map Prod.snd =
      rows[i]?.toList.flatMap (rule (rows.take i)) := by
  have hother : ∀ x ∈ rows.zipIdx, x.2 ≠ i →
      ((rule (rows.take x.2) x.1).map (x.2, ·)).filter (·.1 = i) = [] := by
    intro x _ hne
    refine List.filter_eq_nil_iff.mpr fun y hy => ?_
    obtain ⟨issue, -, rfl⟩ := List.mem_map.mp hy
    simpa using hne
  rw [located, filter_flatMap_of_position hother, filter_zipIdx]
  cases rows[i]? with
  | none => rfl
  | some row => simp [List.filter_map, Function.comp_def]

/-- The positions of the issues ascend, and those of one row are at the same position. -/
theorem pairwise_located {r : Nat → Nat → Prop} (hlt : ∀ i j, i < j → r i j)
    (hrow : ∀ front row i, (rule front row).Pairwise fun _ _ => r i i) (rows : List Row) :
    (located rule rows).Pairwise fun x y => r x.1 y.1 := by
  rw [located, List.pairwise_flatMap]
  refine ⟨fun x _ => List.pairwise_map.mpr (hrow _ _ _), ?_⟩
  refine (pairwise_snd_zipIdx rows).imp fun {x y} hxy a ha b hb => ?_
  obtain ⟨_, -, rfl⟩ := List.mem_map.mp ha
  obtain ⟨_, -, rfl⟩ := List.mem_map.mp hb
  exact hlt _ _ hxy

end

/-! ## Issues and rows -/

/-- Whether the row plays no part: it has neither an instruction nor a statement nor a literal. -/
def Row.isIgnored (mark : String) (row : Row) : Bool :=
  row.hasBlankOpcode && !row.hasStatement && !row.isLiteral mark

/-- The issue is about the row: it copies what identifies the row. It is an error exactly if its
problem is a fault, and the row is no comment and plays a part. -/
structure Issue.IsOf (mark : String) (issue : Issue) (row : Row) : Prop where
  key : issue.key = row.key
  step : issue.step = row.step
  opcode : issue.opcode = row.opcode
  operand : issue.operand = row.operand
  isError_iff : issue.isError ↔ issue.problem ∈ Expression.faults
  isComment : row.isComment = false
  isIgnored : row.isIgnored mark = false

namespace Issue.IsOf

variable {mark : String} {row : Row} {problem : Problem}

theorem error (h : problem ∈ Expression.faults) (hcomment : row.isComment = false)
    (hignored : row.isIgnored mark = false) : (Issue.error row problem).IsOf mark row :=
  ⟨rfl, rfl, rfl, rfl, ⟨fun _ => h, fun _ => rfl⟩, hcomment, hignored⟩

theorem warning (h : problem ∉ Expression.faults) (details : List String)
    (hcomment : row.isComment = false) (hignored : row.isIgnored mark = false) :
    { Issue.warning row problem with details }.IsOf mark row :=
  ⟨rfl, rfl, rfl, rfl, ⟨nofun, fun hfault => absurd hfault h⟩, hcomment, hignored⟩

end Issue.IsOf

theorem Row.isComment_of_not_hasBlankOpcode {row : Row} (h : row.hasBlankOpcode = false) :
    row.isComment = false := by
  rw [isComment, h, Bool.false_and]

theorem Row.isIgnored_of_not_hasBlankOpcode {mark : String} {row : Row}
    (h : row.hasBlankOpcode = false) : row.isIgnored mark = false := by
  rw [isIgnored, h, Bool.false_and, Bool.false_and]

namespace Expression

variable {mark : String} {e : Expression} {row : Row} {rows : List Row} {issue : Issue}

/-! ## Issues of rows -/

/-- The issues of the rows, with positions. -/
def locatedRowIssues (mark : String) (rows : List Row) : List (Nat × Issue) :=
  located (fun front => (after {} front).issues mark) rows

theorem map_snd_locatedRowIssues (mark : String) (rows : List Row) :
    (locatedRowIssues mark rows).map Prod.snd = rowIssues mark {} rows := by
  refine map_snd_located (fun front => (after {} front).rowIssues mark) (fun _ => rfl)
    (fun front row back => ?_) rows
  rw [rowIssues, after_append]
  rfl

/-- The problems of an instruction that has two, in order. -/
inductive TwoProblems : Opcode.Family → List Problem → Prop
  | logic : TwoProblems .logic [.opcodeBeforeLoad, .missingOperand]
  | consume : TwoProblems .consume [.noConditionExpression, .missingOperand]
  | block : TwoProblems .block [.opcodeBeforeLoad, .blockWithoutBranch]

theorem twoProblems_instructionIssues (e : Expression) (row : Row) (family : Option Opcode.Family) :
    (e.instructionIssues row family).length ≤ 1 ∨ ∃ known, family = some known ∧
      TwoProblems known ((e.instructionIssues row family).map (·.problem)) := by
  obtain _ | known := family
  · exact .inl (Nat.le_refl 1)
  · cases known with
    | load | call =>
      simp only [instructionIssues, operandIssues]
      split <;> exact .inl (by simp)
    | separator | noop => exact .inl (Nat.zero_le 1)
    | logic =>
      cases hopen : e.isOpen <;> cases hblank : row.hasBlankOperand <;>
        simp [instructionIssues, operandIssues, hopen, hblank, TwoProblems.logic]
    | consume =>
      by_cases hnone : !e.isOpen && e.branches = 0 <;> cases hblank : row.hasBlankOperand <;>
        simp [instructionIssues, operandIssues, hnone, hblank, TwoProblems.consume]
    | block =>
      cases hopen : e.isOpen <;> by_cases hbranches : e.branches = 0 <;>
        simp [instructionIssues, hopen, hbranches, TwoProblems.block]

/-- A row has at most one issue, except for the instructions that may have two. -/
theorem twoProblems_issues (mark : String) (e : Expression) (row : Row) :
    (e.issues mark row).length ≤ 1 ∨ ∃ op, row.opcode? = some op ∧
      TwoProblems op.family ((e.issues mark row).map (·.problem)) := by
  cases hblank : row.hasBlankOpcode with
  | true =>
    left
    rw [issues_of_hasBlankOpcode hblank]
    split <;> simp
  | false =>
    rw [issues_of_not_hasBlankOpcode hblank]
    refine (twoProblems_instructionIssues e row _).imp_right fun ⟨known, hknown, hproblems⟩ => ?_
    obtain ⟨op, hop, rfl⟩ := Option.map_eq_some_iff.mp hknown
    exact ⟨op, hop, hproblems⟩

theorem twoProblems_locatedRowIssues (mark : String) (rows : List Row) (i : Nat) :
    ((locatedRowIssues mark rows).filter (·.1 = i)).length ≤ 1 ∨
      ∃ row op, rows[i]? = some row ∧ row.opcode? = some op ∧ TwoProblems op.family
        (((locatedRowIssues mark rows).filter (·.1 = i)).map (·.2.problem)) := by
  have hissues : ((locatedRowIssues mark rows).filter (·.1 = i)).map Prod.snd =
      rows[i]?.toList.flatMap ((after {} (rows.take i)).issues mark) := filter_located rows i
  have hproblems := congrArg (List.map (·.problem)) hissues
  rw [List.map_map] at hproblems
  rw [← List.length_map, hissues]
  cases hrow : rows[i]? with
  | none => exact .inl (Nat.zero_le 1)
  | some row =>
    rw [hrow, Option.toList_some, List.flatMap_singleton] at hproblems
    rw [Option.toList_some, List.flatMap_singleton]
    refine (twoProblems_issues mark _ row).imp_right fun ⟨op, hop, htwo⟩ => ?_
    exact ⟨row, op, rfl, hop, hproblems ▸ htwo⟩

theorem isOf_of_mem_issues (h : issue ∈ e.issues mark row) : issue.IsOf mark row := by
  have hcomment : row.isComment = false := by
    refine Bool.eq_false_iff.mpr fun hcomment => ?_
    simp [issues, Row.role_of_isComment hcomment] at h
  have hignored : row.isIgnored mark = false := by
    refine Bool.eq_false_iff.mpr fun hignored => ?_
    simp only [Row.isIgnored, Bool.and_eq_true, Bool.not_eq_true'] at hignored
    obtain ⟨⟨hblank, -⟩, hliteral⟩ := hignored
    simp [issues_of_hasBlankOpcode hblank, hliteral] at h
  obtain ⟨problem, hfault, rfl⟩ | ⟨problem, hdoubt, details, rfl⟩ := eq_of_mem_issues h
  · exact .error hfault hcomment hignored
  · refine .warning (fun hfault => ?_) details hcomment hignored
    have hdisjoint : ∀ problem ∈ faults, problem ∉ .parameterWithoutInstruction :: doubts := by
      decide
    exact hdisjoint problem hfault hdoubt

/-! ## The issue at the end -/

/-- The position of the last instruction, if there is one. -/
def lastPosition (rows : List Row) : Nat :=
  (rows.rdropWhile Row.hasBlankOpcode).length - 1

theorem lastPosition_append {front back : List Row} (h : row.hasBlankOpcode = false)
    (hback : ∀ other ∈ back, other.hasBlankOpcode) :
    lastPosition (front ++ row :: back) = front.length := by
  have hdrop : (front ++ row :: back).rdropWhile Row.hasBlankOpcode = front ++ [row] := by
    rw [List.append_cons, List.rdropWhile, List.reverse_append,
      List.dropWhile_append_of_pos fun other hother => hback other (List.mem_reverse.mp hother)]
    exact List.rdropWhile_concat_neg _ _ _ (by simp [h])
  rw [lastPosition, hdrop, List.length_append, List.length_singleton, Nat.add_sub_cancel]

/-- The issue at the end of the rows, with the position of the last instruction. -/
def locatedEndIssues (rows : List Row) : List (Nat × Issue) :=
  (after {} rows).endIssues.map (lastPosition rows, ·)

theorem map_snd_locatedEndIssues (rows : List Row) :
    (locatedEndIssues rows).map Prod.snd = (after {} rows).endIssues := by
  rw [locatedEndIssues, List.map_map]
  exact List.map_id _

/-- There is at most one, and it is about the last instruction. -/
theorem locatedEndIssues_eq (rows : List Row) : locatedEndIssues rows = [] ∨
    ∃ front row back, rows = front ++ row :: back ∧ row.hasBlankOpcode = false ∧
      (∀ other ∈ back, other.hasBlankOpcode) ∧
      locatedEndIssues rows = [(front.length, (Issue.warning row .unresolvedBranches).detail
        (toString (after {} rows).branches ++ " unresolved branches"))] := by
  cases hlast : (after {} rows).last with
  | none =>
    left
    rw [locatedEndIssues, endIssues, hlast]
    split <;> rfl
  | some row =>
    by_cases hbranches : (after {} rows).branches = 0
    · left
      rw [locatedEndIssues, endIssues, if_pos hbranches]
      rfl
    · right
      -- The last instruction splits the rows: behind it there is none.
      have hfilter := hlast
      rw [last_after, Option.or_none, List.getLast?_eq_some_iff] at hfilter
      obtain ⟨earlier, hfilter⟩ := hfilter
      obtain ⟨front, behind, hrows, -, hbehind⟩ := List.filter_eq_append_iff.mp hfilter
      obtain ⟨between, back, rfl, -, hopcode, hblank⟩ := List.filter_eq_cons_iff.mp hbehind
      rw [← List.append_assoc] at hrows
      have hopcode : row.hasBlankOpcode = false := by simpa using hopcode
      have hback : ∀ other ∈ back, other.hasBlankOpcode := by simpa using hblank
      refine ⟨front ++ between, row, back, hrows, hopcode, hback, ?_⟩
      rw [locatedEndIssues, endIssues, if_neg hbranches, hlast]
      simp only [List.map_cons, List.map_nil]
      rw [hrows, lastPosition_append hopcode hback]

theorem isOf_of_mem_locatedEndIssues {x : Nat × Issue} (h : x ∈ locatedEndIssues rows) :
    ∃ row, rows[x.1]? = some row ∧ x.2.IsOf mark row := by
  obtain hnil | ⟨front, row, back, hrows, hopcode, -, hissue⟩ := locatedEndIssues_eq rows
  · rw [hnil] at h
    cases h
  · rw [hissue] at h
    obtain rfl := List.mem_singleton.mp h
    have hrow : rows[front.length]? = some row := by
      rw [hrows, List.getElem?_append_right (Nat.le_refl _), Nat.sub_self, List.getElem?_cons_zero]
    refine ⟨row, hrow, ?_⟩
    exact .warning (by decide) _ (Row.isComment_of_not_hasBlankOpcode hopcode)
      (Row.isIgnored_of_not_hasBlankOpcode hopcode)

end Expression

/-! ## Double coils -/

namespace DoubleCoil

variable {mark : String} {row : Row} {rows : List Row}

/-- What is wrong about a row as a coil, given the rows in front of it. -/
def rowIssues (front : List Row) (row : Row) : List Issue :=
  if (device? row).any fun device => device ∈ front.filterMap device? then [issue row] else []

/-- The double coils, with positions. -/
def locatedIssues (rows : List Row) : List (Nat × Issue) :=
  located rowIssues rows

/-- Only which devices are set matters, not how often or in what order they were. -/
theorem issuesFrom_congr {seen seen' : List String}
    (h : ∀ device, device ∈ seen ↔ device ∈ seen') (rows : List Row) :
    issuesFrom seen rows = issuesFrom seen' rows := by
  induction rows generalizing seen seen' with
  | nil => rfl
  | cons row rows ih =>
    cases hdevice : device? row with
    | none => rw [issuesFrom_cons_of_none hdevice, issuesFrom_cons_of_none hdevice, ih h]
    | some device =>
      have hcons : ∀ other, other ∈ device :: seen ↔ other ∈ device :: seen' := by simp [h]
      simp only [issuesFrom_cons_of_some hdevice, ih h, ih hcons, h device]

/-- The devices seen so far are those of the rows in front. -/
theorem issuesFrom_cons (front : List Row) (row : Row) (back : List Row) :
    issuesFrom (front.filterMap device?) (row :: back) =
      rowIssues front row ++ issuesFrom ((front ++ [row]).filterMap device?) back := by
  rw [List.filterMap_append]
  cases hdevice : device? row with
  | none => simp [issuesFrom_cons_of_none hdevice, rowIssues, hdevice]
  | some device =>
    rw [issuesFrom_cons_of_some hdevice, rowIssues, hdevice, Option.any_some,
      List.filterMap_cons_some hdevice, List.filterMap_nil]
    simp only [decide_eq_true_eq]
    split
    · next hseen =>
      have hdevices : ∀ other, other ∈ front.filterMap device? ↔
          other ∈ front.filterMap device? ++ [device] := by
        intro other
        rw [List.mem_append, List.mem_singleton, or_iff_left_of_imp]
        rintro rfl
        exact hseen
      rw [issuesFrom_congr hdevices, List.singleton_append]
    · have hdevices : ∀ other, other ∈ device :: front.filterMap device? ↔
          other ∈ front.filterMap device? ++ [device] := by
        intro other
        rw [List.mem_cons, List.mem_append, List.mem_singleton, or_comm]
      rw [issuesFrom_congr hdevices, List.nil_append]

/-- A row is a double coil at most once, so the positions ascend. -/
theorem pairwise_locatedIssues (rows : List Row) :
    (locatedIssues rows).Pairwise fun x y => x.1 < y.1 := by
  refine pairwise_located (fun _ _ => id) (fun front row i => ?_) rows
  rw [rowIssues]
  split
  · exact List.pairwise_singleton _ _
  · exact .nil

theorem map_snd_locatedIssues (rows : List Row) :
    (locatedIssues rows).map Prod.snd = issues rows :=
  map_snd_located (fun front => issuesFrom (front.filterMap device?)) (fun _ => rfl)
    issuesFrom_cons rows

theorem isOf_of_mem_rowIssues {front : List Row} {found : Issue} (h : found ∈ rowIssues front row) :
    found.IsOf mark row := by
  rw [rowIssues] at h
  split at h
  · next hdevice =>
    obtain rfl := List.mem_singleton.mp h
    obtain ⟨device, hdevice, -⟩ := (Option.any_eq_true _ _).mp hdevice
    have hopcode : row.hasBlankOpcode = false := by
      obtain ⟨hout, -⟩ := Option.ite_none_right_eq_some.mp hdevice
      exact Row.hasBlankOpcode_of_opcode? (of_decide_eq_true (Bool.and_eq_true_iff.mp hout).1)
    exact .warning (by decide) _ (Row.isComment_of_not_hasBlankOpcode hopcode)
      (Row.isIgnored_of_not_hasBlankOpcode hopcode)
  · cases h

end DoubleCoil

/-- **Where issues come from, and in what order.** Validation gives the issues of the rows, then the
issue at the end, and then the double coils. The issues of the rows come in the order of the rows,
and a row has two only if it is one of the instructions that may. The issue at the end is a warning
about the last instruction. Double coils are warnings at ascending positions. Each issue is about
the row at its position, which is an instruction or a parameter. -/
theorem validate_eq_located (mark : String) (rows : List Row) :
    validate mark rows = (Expression.locatedRowIssues mark rows ++
        Expression.locatedEndIssues rows ++ DoubleCoil.locatedIssues rows).map Prod.snd ∧
      (Expression.locatedRowIssues mark rows).Pairwise (fun x y => x.1 ≤ y.1) ∧
      (∀ i, ((Expression.locatedRowIssues mark rows).filter (·.1 = i)).length ≤ 1 ∨
        ∃ row op, rows[i]? = some row ∧ row.opcode? = some op ∧ Expression.TwoProblems op.family
          (((Expression.locatedRowIssues mark rows).filter (·.1 = i)).map (·.2.problem))) ∧
      (Expression.locatedEndIssues rows = [] ∨
        ∃ front row back, rows = front ++ row :: back ∧ row.hasBlankOpcode = false ∧
          (∀ other ∈ back, other.hasBlankOpcode) ∧ Expression.locatedEndIssues rows =
            [(front.length, (Issue.warning row .unresolvedBranches).detail
              (toString (Expression.after {} rows).branches ++ " unresolved branches"))]) ∧
      (DoubleCoil.locatedIssues rows).Pairwise (fun x y => x.1 < y.1) ∧
      (∀ x ∈ DoubleCoil.locatedIssues rows,
        x.2.problem = .duplicateOutput ∧ x.2.severity = .warning) ∧
      ∀ x ∈ Expression.locatedRowIssues mark rows ++ Expression.locatedEndIssues rows ++
        DoubleCoil.locatedIssues rows, ∃ row, rows[x.1]? = some row ∧ x.2.IsOf mark row := by
  refine ⟨?_, ?_, Expression.twoProblems_locatedRowIssues mark rows,
    Expression.locatedEndIssues_eq rows, DoubleCoil.pairwise_locatedIssues rows,
    fun x hx => ?_, fun x hx => ?_⟩
  · rw [List.map_append, List.map_append, Expression.map_snd_locatedRowIssues,
      Expression.map_snd_locatedEndIssues, DoubleCoil.map_snd_locatedIssues]
    rfl
  · exact pairwise_located (fun _ _ => Nat.le_of_lt)
      (fun _ _ i => List.pairwise_of_forall fun _ _ => Nat.le_refl i) rows
  · have hissue := List.mem_map_of_mem (f := Prod.snd) hx
    rw [DoubleCoil.map_snd_locatedIssues] at hissue
    exact DoubleCoil.problem_of_mem_issuesFrom hissue
  · obtain hx | hx := List.mem_append.mp hx
    · obtain hx | hx := List.mem_append.mp hx
      · obtain ⟨row, hrow, hissue⟩ := mem_located.mp hx
        exact ⟨row, hrow, Expression.isOf_of_mem_issues hissue⟩
      · exact Expression.isOf_of_mem_locatedEndIssues hx
    · obtain ⟨row, hrow, hissue⟩ := mem_located.mp hx
      exact ⟨row, hrow, DoubleCoil.isOf_of_mem_rowIssues hissue⟩

/-- Instructions without an expression, and behind a comment a coil that is set twice while a branch
is left. -/
def faultyRungs : List Row :=
  [{ key := 1, opcode := "AND" }, { key := 1, opcode := "ORB" }, { key := 1, opcode := "OUT" },
    { key := 2, statement := some "next" }, { key := 3, opcode := "LD", operand := "X0" },
    { key := 2, opcode := "LD", operand := "X1" }, { key := 2, opcode := "OUT", operand := "Y0" },
    { key := 2, opcode := "OUT", operand := "y0" }, { key := 2, operand := "K5" }]

-- The first three rows have two issues each, and the second `OUT` has one of each other kind.
example : (Expression.locatedRowIssues "K" faultyRungs ++ Expression.locatedEndIssues faultyRungs ++
      DoubleCoil.locatedIssues faultyRungs).map (fun x => (x.1, x.2.problem)) =
    [(0, .opcodeBeforeLoad), (0, .missingOperand), (1, .opcodeBeforeLoad), (1, .blockWithoutBranch),
      (2, .noConditionExpression), (2, .missingOperand), (7, .unresolvedBranches),
      (7, .duplicateOutput)] := by
  decide +kernel

end InterlockLadder
