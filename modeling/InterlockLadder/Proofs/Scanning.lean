import InterlockLadder.Document.Read
import Mathlib.Data.List.Basic

/-! What scanners read. A scanner that reads a result from the front of a text does so wherever the
text stands, so the number of bytes read is left open (`Scan.Reads`). -/

namespace InterlockLadder.Json

/-- The scanner reads the result, and `rest` is not read yet. -/
def Scan.Reads {α : Type} (m : Scan α) (cs : List Char) (a : α) (rest : List Char) : Prop :=
  ∀ offset, ∃ offset', m.run ⟨cs, offset⟩ = .ok (a, ⟨rest, offset'⟩)

/-- All of the characters may stand between tokens. -/
def IsGap (cs : List Char) : Prop :=
  ∀ c ∈ cs, isGap c

theorem isGap_nil : IsGap [] :=
  List.forall_mem_nil _

section
variable {α : Type} {p : α → Bool} {front rest : List α} (hfront : ∀ a ∈ front, p a)
  (hrest : ∀ a ∈ rest.head?, p a = false)
include hfront hrest

theorem dropWhile_append_of_stop : (front ++ rest).dropWhile p = rest := by
  rw [List.dropWhile_append_of_pos hfront]
  cases rest with
  | nil => rfl
  | cons a as => rw [List.dropWhile_cons_of_neg (by simp [hrest a rfl])]

theorem takeWhile_append_of_stop : (front ++ rest).takeWhile p = front := by
  rw [List.takeWhile_append_of_pos hfront]
  cases rest with
  | nil => exact List.append_nil _
  | cons a as => rw [List.takeWhile_cons_of_neg (by simp [hrest a rfl]), List.append_nil]

end

namespace Scan

section
variable {α β : Type} {m : Scan α} {f : α → Scan β} {a : α} {b : β} {cs mid rest : List Char}

theorem Reads.pure (a : α) (cs : List Char) : Reads (pure a) cs a cs :=
  fun offset => ⟨offset, rfl⟩

theorem Reads.bind (hm : Reads m cs a mid) (hf : Reads (f a) mid b rest) :
    Reads (m >>= f) cs b rest := by
  intro offset
  obtain ⟨between, hm⟩ := hm offset
  obtain ⟨offset', hf⟩ := hf between
  refine ⟨offset', ?_⟩
  rw [StateT.run_bind, hm]
  exact hf

theorem Reads.map (g : α → β) (hm : Reads m cs a rest) : Reads (g <$> m) cs (g a) rest := by
  rw [map_eq_pure_bind]
  exact hm.bind (.pure (g a) rest)

/-- A scanner that looks at all that is left. -/
theorem Reads.lookahead {f : List Char → Scan α} (hf : Reads (f cs) cs a rest) :
    Reads (do f (← get).rest) cs a rest :=
  hf

end

theorem reads_peek (cs : List Char) : Reads peek cs cs.head? cs :=
  fun offset => ⟨offset, rfl⟩

theorem reads_skip (c : Char) (cs : List Char) : Reads skip (c :: cs) () cs :=
  fun _ => ⟨_, rfl⟩

section
variable {gap : List Char} (hgap : IsGap gap)
include hgap

theorem reads_skipGap (rest : List Char) (hrest : ∀ c ∈ rest.head?, isGap c = false) :
    Reads skipGap (gap ++ rest) () rest := by
  intro offset
  refine ⟨offset + ((gap ++ rest).takeWhile isGap).length, ?_⟩
  change Except.ok ((), (⟨(gap ++ rest).dropWhile isGap, _⟩ : Cursor)) = _
  rw [dropWhile_append_of_stop hgap hrest]

theorem reads_peekToken {c : Char} (hc : isGap c = false) (cs : List Char) :
    Reads peekToken (gap ++ c :: cs) (some c) (c :: cs) :=
  (reads_skipGap hgap (c :: cs) fun _ h => Option.some.inj h ▸ hc).bind (reads_peek _)

theorem reads_peekToken_end : Reads peekToken gap none [] := by
  have hskip := reads_skipGap hgap [] nofun
  rw [List.append_nil] at hskip
  exact hskip.bind (reads_peek _)

theorem reads_colon (cs : List Char) : Reads colon (gap ++ ':' :: cs) () cs :=
  (reads_peekToken hgap rfl cs).bind (reads_skip _ _)

end

theorem reads_ident (letters rest : List Char) :
    Reads (ident letters) (letters ++ rest) () rest := by
  induction letters with
  | nil => exact .pure _ _
  | cons c letters ih =>
    refine .bind (reads_peek _) ?_
    change Reads (if c = c then do skip; ident letters else failAhead .expectedIdent) _ _ _
    rw [if_pos rfl]
    exact (reads_skip _ _).bind ih

/-! ## Texts -/

theorem reads_hexUnit {digits : List Char} {n : Nat} (h : hexValue4? digits = some n)
    (rest : List Char) : Reads hexUnit (digits ++ rest) n rest := by
  intro offset
  have hlength : digits.length = 4 := by
    unfold hexValue4? at h
    split at h
    · rfl
    · cases h
  have htake : (digits ++ rest).take 4 = digits := by rw [← hlength, List.take_left]
  have hdrop : (digits ++ rest).drop 4 = rest := by rw [← hlength, List.drop_left]
  refine ⟨offset + 4, ?_⟩
  rw [hexUnit, StateT.run_bind, StateT.run_get, pure_bind]
  simp only [htake, hdrop, h]
  rfl

theorem reads_numberedChar {digits : List Char} {n : Nat} (h : hexValue4? digits = some n)
    (hhigh : isHighSurrogate n = false) (hlow : isLowSurrogate n = false) (rest : List Char) :
    Reads numberedChar (digits ++ rest) (.ofNat n) rest := by
  refine (reads_hexUnit h rest).bind ?_
  rw [hlow, hhigh]
  exact .pure _ _

end Scan

/-! ## Numbers -/

theorem any_isDigit_eq_false {rest : List Char} (h : ∀ c ∈ rest.head?, c.isDigit = false) :
    rest.head?.any Char.isDigit = false := by
  cases hhead : rest.head? with
  | none => rfl
  | some c => exact h c hhead

/-- What follows neither goes on with the digits of a number nor with a part behind them. -/
def Delimits (rest : List Char) : Prop :=
  ∀ c ∈ rest.head?, c.isDigit = false ∧ c ≠ '.' ∧ c ≠ 'e' ∧ c ≠ 'E'

namespace Numeral

theorem le_ofDigitChars (ds : List Char) (n : Nat) : n ≤ Nat.ofDigitChars 10 ds n := by
  induction ds generalizing n with
  | nil => exact Nat.le_refl _
  | cons d ds ih =>
    rw [Nat.ofDigitChars_cons]
    exact Nat.le_trans (by omega) (ih _)

theorem absorb_eq {n : Nat} {ds : List Char} (h : Nat.ofDigitChars 10 ds n ≤ maxSignificand) :
    absorb n ds = (Nat.ofDigitChars 10 ds n, 0) := by
  induction ds generalizing n with
  | nil => rfl
  | cons d ds ih =>
    rw [Nat.ofDigitChars_cons] at h ⊢
    have hle := Nat.le_trans (le_ofDigitChars ds _) h
    rw [absorb, digitValue, if_neg (Nat.not_lt.mpr hle), ih h]

theorem reads_digits {ds rest : List Char} (hds : ∀ d ∈ ds, d.isDigit)
    (hrest : ∀ c ∈ rest.head?, c.isDigit = false) :
    Scan.Reads Scan.digits (ds ++ rest) ds rest := by
  intro offset
  refine ⟨offset + ((ds ++ rest).takeWhile Char.isDigit).length, ?_⟩
  change Except.ok ((ds ++ rest).takeWhile Char.isDigit,
    (⟨(ds ++ rest).dropWhile Char.isDigit, _⟩ : Cursor)) = _
  rw [takeWhile_append_of_stop hds hrest, dropWhile_append_of_stop hds hrest]

theorem reads_afterInteger {rest : List Char} (h : Delimits rest) (n : Nat) :
    Scan.Reads (afterInteger false n 0) rest (.integer n) rest := by
  refine (Scan.reads_peek rest).bind ?_
  split
  · next hdot => exact absurd rfl (h _ hdot).2.1
  · next he => exact absurd rfl (h _ he).2.2.1
  · next he => exact absurd rfl (h _ he).2.2.2
  · exact .pure _ _

end Numeral

end InterlockLadder.Json
