import InterlockLadder.Check.Listing

/-! Double coils are warnings, and a listing has none exactly if no device is set twice. -/

namespace InterlockLadder.DoubleCoil

variable {seen : List String} {row : Row} {rows : List Row}

-- The recursion is unfolded here once: its equations take Lean long to derive.
theorem issuesFrom_cons_of_none (h : device? row = none) :
    issuesFrom seen (row :: rows) = issuesFrom seen rows := by
  rw [issuesFrom.eq_def]
  simp only [h]

theorem issuesFrom_cons_of_some {device : String} (h : device? row = some device) :
    issuesFrom seen (row :: rows) =
      if device ∈ seen then issue row :: issuesFrom seen rows
      else issuesFrom (device :: seen) rows := by
  rw [issuesFrom.eq_def]
  simp only [h]

theorem problem_of_mem_issuesFrom {issue : Issue} (h : issue ∈ issuesFrom seen rows) :
    issue.problem = .duplicateOutput ∧ issue.severity = .warning := by
  induction rows generalizing seen with
  | nil => cases h
  | cons row rows ih =>
    cases hdevice : device? row with
    | none =>
      rw [issuesFrom_cons_of_none hdevice] at h
      exact ih h
    | some device =>
      rw [issuesFrom_cons_of_some hdevice] at h
      split at h
      · obtain rfl | h := List.mem_cons.mp h
        · exact ⟨rfl, rfl⟩
        · exact ih h
      · exact ih h

theorem issuesFrom_eq_nil_iff : issuesFrom seen rows = [] ↔
    (rows.filterMap device?).Nodup ∧ ∀ device ∈ rows.filterMap device?, device ∉ seen := by
  induction rows generalizing seen with
  | nil => exact ⟨fun _ => ⟨List.nodup_nil, nofun⟩, fun _ => rfl⟩
  | cons row rows ih =>
    cases hdevice : device? row with
    | none => rw [issuesFrom_cons_of_none hdevice, List.filterMap_cons_none hdevice, ih]
    | some device =>
      rw [issuesFrom_cons_of_some hdevice, List.filterMap_cons_some hdevice, List.nodup_cons,
        List.forall_mem_cons]
      by_cases hseen : device ∈ seen
      · simp [hseen]
      · simp only [hseen, if_false, ih, List.mem_cons, not_or, not_false_eq_true, true_and]
        constructor
        · rintro ⟨hnodup, hfresh⟩
          exact ⟨⟨fun hmem => (hfresh device hmem).1 rfl, hnodup⟩,
            fun other hother => (hfresh other hother).2⟩
        · rintro ⟨⟨hmem, hnodup⟩, hfresh⟩
          refine ⟨hnodup, fun other hother => ⟨?_, hfresh other hother⟩⟩
          rintro rfl
          exact hmem hother

theorem issues_eq_nil_iff : issues rows = [] ↔ (rows.filterMap device?).Nodup := by
  rw [issues, issuesFrom_eq_nil_iff]
  exact and_iff_left fun _ _ => List.not_mem_nil

end InterlockLadder.DoubleCoil
