import InterlockLadder.Plant.View

/-! Texts that are not blank: decimal numbers, trimmed fields, and whatever holds one of them. -/

namespace InterlockLadder

namespace Text

@[simp] theorem isBlank_append (s t : String) : isBlank (s ++ t) = (isBlank s && isBlank t) := by
  simp [isBlank]

theorem isBlankChar_of_isDigit {c : Char} (h : c.isDigit) : isBlankChar c = false := by
  obtain ⟨hlow, hhigh⟩ := Char.isDigit_iff_toNat.mp h
  have hzero : '0'.toNat = 48 := rfl
  have hnine : '9'.toNat = 57 := rfl
  simp only [isBlankChar, blankRanges, List.any_eq_false, List.mem_cons, List.not_mem_nil,
    or_false, Bool.and_eq_true, decide_eq_true_eq]
  rintro r (rfl | rfl | rfl | rfl | rfl | rfl | rfl | rfl | rfl | rfl) <;> omega

@[simp] theorem isBlank_repr (n : Nat) : isBlank n.repr = false := by
  obtain ⟨c, hc⟩ := List.exists_mem_of_ne_nil _ (Nat.toDigits_ne_nil (b := 10) (n := n))
  have hblank := isBlankChar_of_isDigit (Nat.isDigit_of_mem_toDigits (by decide) (by decide) hc)
  rw [isBlank, Nat.toList_repr, List.all_eq_false]
  exact ⟨c, hc, by simp [hblank]⟩

theorem all_dropWhile {cs : List Char} :
    (cs.dropWhile isBlankChar).all isBlankChar = cs.all isBlankChar := by
  induction cs with
  | nil => rfl
  | cons c cs ih => cases hc : isBlankChar c <;> simp [hc, ih]

@[simp] theorem isBlank_trim (s : String) : isBlank (trim s) = isBlank s := by
  simp only [isBlank, toList_trim, trimBlanks, dropBlanksRight, List.all_reverse, all_dropWhile]

theorem nonBlank?_eq_some_iff {s t : String} :
    nonBlank? s = some t ↔ isBlank s = false ∧ trim s = t := by
  rw [nonBlank?]
  split <;> simp_all

theorem isBlank_of_nonBlank? {s t : String} (h : nonBlank? s = some t) : isBlank t = false := by
  rw [nonBlank?] at h
  split at h
  · cases h
  · cases h
    simp_all

theorem isBlank_intercalate_cons {separator s : String} {parts : List String}
    (h : isBlank s = false) : isBlank (separator.intercalate (s :: parts)) = false := by
  cases parts with
  | nil => rwa [String.intercalate_singleton]
  | cons part parts =>
    rw [String.intercalate_cons_cons]
    simp [h]

end Text

theorem isBlank_of_filled? {field : Option String} {text : String}
    (h : filled? field = some text) : Text.isBlank text = false := by
  obtain ⟨s, -, hs⟩ := Option.bind_eq_some_iff.mp h
  exact Text.isBlank_of_nonBlank? hs

/-- The name of an interlock is never blank. -/
@[simp] theorem Interlock.isBlank_displayName (i : Interlock) :
    Text.isBlank i.displayName = false := by
  cases hname : filled? i.name with
  | none => simp [displayName, hname]
  | some name => simpa [displayName, hname] using isBlank_of_filled? hname

theorem Condition.isBlank_of_comment? {c : Condition} {text : String} (h : c.comment? = some text) :
    Text.isBlank text = false := by
  rw [comment?] at h
  split at h
  · cases h
  · next parts hparts =>
    obtain ⟨first, others, hcons⟩ := List.exists_cons_of_ne_nil hparts
    have hmem : first ∈ [c.comment1, c.comment2].filterMap filled? := by simp [hcons]
    obtain ⟨field, -, hfirst⟩ := List.mem_filterMap.mp hmem
    rw [← Option.some.inj h, hcons]
    exact Text.isBlank_intercalate_cons (isBlank_of_filled? hfirst)

/-- The text that introduces the rung of a condition is never blank. -/
@[simp] theorem Condition.isBlank_getD_comment? (c : Condition) :
    Text.isBlank (c.comment?.getD c.displayName) = false := by
  cases hcomment : c.comment? with
  | none => simp [displayName]
  | some text => simpa using isBlank_of_comment? hcomment

end InterlockLadder
