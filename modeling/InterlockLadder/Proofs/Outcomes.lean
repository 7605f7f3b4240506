import InterlockLadder.Document.Read
import InterlockLadder.Proofs.Passing

/-! What readers make of single values. A reader gives a result if it reads it wherever the text
stands, and gives none if it fails there (`Scan.Gives`), so one lemma for each reader says both what
it accepts and what it refuses. Here are those of record numbers, texts and names
(`gives_number`, `gives_text`, `gives_choice`). -/

namespace InterlockLadder.Json

namespace Scan

variable {α β : Type} {m : Scan α} {f : α → Scan β} {cs mid rest : List Char} {a : α}
  {p : α → List Char → Prop} {q : β → List Char → Prop}

/-- Whatever the scanner reads has the property, together with what is then not read yet. -/
def Ensures (m : Scan α) (cs : List Char) (p : α → List Char → Prop) : Prop :=
  ∀ offset a rest behind, m.run ⟨cs, offset⟩ = .ok (a, ⟨rest, behind⟩) → p a rest

/-- The scanner reads nothing. -/
def Fails (m : Scan α) (cs : List Char) : Prop :=
  m.Ensures cs fun _ _ => False

/-- The scanner reads the result, if there is one, and nothing otherwise. -/
def Gives (m : Scan α) (cs : List Char) (result : Option α) (rest : List Char) : Prop :=
  match result with
  | some a => m.Reads cs a rest
  | none => m.Fails cs

/-- What is left to do, behind the characters that the scanner reads first, is the other one. -/
def Becomes (m : Scan α) (cs : List Char) (m' : Scan α) (mid : List Char) : Prop :=
  ∀ offset, ∃ between, m.run ⟨cs, offset⟩ = m'.run ⟨mid, between⟩

theorem Becomes.refl (m : Scan α) (cs : List Char) : Becomes m cs m cs :=
  fun offset => ⟨offset, rfl⟩

theorem Becomes.trans {m' m'' : Scan α} (h : Becomes m cs m' mid)
    (h' : Becomes m' mid m'' rest) : Becomes m cs m'' rest := by
  intro offset
  obtain ⟨between, hrun⟩ := h offset
  obtain ⟨behind, hrun'⟩ := h' between
  exact ⟨behind, hrun.trans hrun'⟩

theorem Becomes.bind {m' : Scan α} (h : Becomes m cs m' mid) :
    Becomes (m >>= f) cs (m' >>= f) mid := by
  intro offset
  obtain ⟨between, hrun⟩ := h offset
  refine ⟨between, ?_⟩
  rw [StateT.run_bind, StateT.run_bind, hrun]

theorem Reads.becomes (h : Reads m cs a mid) : Becomes (m >>= f) cs (f a) mid := by
  intro offset
  obtain ⟨between, hrun⟩ := h offset
  refine ⟨between, ?_⟩
  rw [StateT.run_bind, hrun]
  rfl

/-! ## Properties of all results -/

theorem Becomes.ensures {m' : Scan α} (h : Becomes m cs m' mid) (hm : Ensures m' mid p) :
    Ensures m cs p := by
  intro offset a rest behind hrun
  obtain ⟨between, heq⟩ := h offset
  exact hm between a rest behind (heq ▸ hrun)

theorem Ensures.bind (hm : Ensures m cs p) (hf : ∀ a mid, p a mid → Ensures (f a) mid q) :
    Ensures (m >>= f) cs q := by
  intro offset b rest behind h
  rw [StateT.run_bind] at h
  cases hrun : m.run ⟨cs, offset⟩ with
  | error failure =>
    rw [hrun] at h
    cases h
  | ok result =>
    obtain ⟨a, mid, between⟩ := result
    rw [hrun] at h
    exact hf a mid (hm offset a mid between hrun) between b rest behind h

/-- Often only what comes last counts. -/
theorem Ensures.last (hf : ∀ a mid, Ensures (f a) mid q) : Ensures (m >>= f) cs q := by
  have htrue : Ensures m cs fun _ _ => True := fun _ _ _ _ _ => trivial
  exact htrue.bind fun a mid _ => hf a mid

/-- What comes last also counts where something may come before. -/
theorem Ensures.optionally {c : Prop} [Decidable c] {before : Scan Unit} {f : Unit → Scan β}
    (hf : ∀ mid, Ensures (f ()) mid q) : Ensures (if c then before >>= f else f ()) cs q := by
  split
  · exact .last fun _ mid => hf mid
  · exact hf cs

theorem Reads.ensures_bind (hm : Reads m cs a mid) (hf : Ensures (f a) mid q) :
    Ensures (m >>= f) cs q :=
  hm.becomes.ensures hf

theorem ensures_pure (h : p a cs) : Ensures (pure a) cs p := by
  intro _ _ _ _ hrun
  cases hrun
  exact h

theorem ensures_failAt (offset : Nat) (fault : Fault) : Ensures (failAt offset fault) cs p :=
  fun _ _ _ _ hrun => nomatch hrun

theorem ensures_failHere (fault : Fault) : Ensures (failHere fault) cs p :=
  fun _ _ _ _ hrun => nomatch hrun

theorem ensures_failAhead (fault : Fault) : Ensures (failAhead fault) cs p :=
  fun _ _ _ _ hrun => nomatch hrun

theorem Fails.bind (hm : Fails m cs) : Ensures (m >>= f) cs q :=
  Ensures.bind hm fun _ _ h => h.elim

/-! ## Results -/

theorem Becomes.gives {m' : Scan α} {result : Option α} (h : Becomes m cs m' mid)
    (hm : Gives m' mid result rest) : Gives m cs result rest := by
  cases result with
  | none => exact h.ensures hm
  | some a =>
    intro offset
    obtain ⟨between, heq⟩ := h offset
    rw [heq]
    exact hm between

theorem Reads.gives (h : Reads m cs a rest) : Gives m cs (some a) rest := h

theorem Reads.gives_bind {result : Option β} (hm : Reads m cs a mid)
    (hf : Gives (f a) mid result rest) : Gives (m >>= f) cs result rest :=
  hm.becomes.gives hf

theorem Gives.bind {result : Option α} {next : α → Option β} (hm : Gives m cs result mid)
    (hf : ∀ a, result = some a → Gives (f a) mid (next a) rest) :
    Gives (m >>= f) cs (result.bind next) rest := by
  cases result with
  | some a => exact Reads.gives_bind hm (hf a rfl)
  | none => exact Fails.bind hm

/-- Nothing is read if nothing is read behind the result. -/
theorem Gives.fails_bind {result : Option α} (hm : Gives m cs result mid)
    (hf : ∀ a, Fails (f a) mid) : Fails (m >>= f) cs := by
  cases result with
  | some a => exact Reads.ensures_bind hm (hf a)
  | none => exact Fails.bind hm

theorem Gives.map (g : α → β) {result : Option α} (hm : Gives m cs result rest) :
    Gives (g <$> m) cs (result.map g) rest := by
  cases result with
  | some a => exact Reads.map g hm
  | none =>
    rw [map_eq_pure_bind]
    exact Fails.bind hm

theorem Gives.lookahead {f : List Char → Scan α} {result : Option α}
    (hf : Gives (f cs) cs result rest) : Gives (do f (← get).rest) cs result rest := by
  cases result with
  | some a => exact Reads.lookahead hf
  | none => exact hf

/-- A result is read exactly if it is the one that is given. -/
theorem Gives.exists_run_iff {result : Option α} (h : Gives m cs result rest) (offset : Nat)
    (a : α) : (∃ behind, m.run ⟨cs, offset⟩ = .ok (a, behind)) ↔ result = some a := by
  cases result with
  | some b =>
    obtain ⟨between, hrun⟩ := h offset
    rw [hrun]
    simp
  | none =>
    simp only [reduceCtorEq, iff_false, not_exists]
    exact fun behind => h offset a behind.rest behind.offset

end Scan

end InterlockLadder.Json

namespace InterlockLadder

open Json Reading
open Json.Scan (Becomes Ensures Fails Gives Reads)

theorem reads_token {gap : List Char} (hgap : IsGap gap) {c : Char} (hc : isGap c = false)
    (cs : List Char) : Reads token (gap ++ c :: cs) c (c :: cs) :=
  (Scan.reads_peekToken hgap hc cs).bind (.pure _ _)

theorem reads_null (rest : List Char) : Reads null (['n', 'u', 'l', 'l'] ++ rest) () rest :=
  (Scan.reads_skip _ _).bind (Scan.reads_ident ['u', 'l', 'l'] rest)

/-- Nothing is read where a value of another type is expected. -/
theorem fails_mismatch {α : Type} (expected : Expected) (cs : List Char) :
    Fails (mismatch expected : Scan α) cs := by
  refine .last fun c mid => ?_
  split
  iterate 3 exact .last fun _ _ => .last fun _ _ => Scan.ensures_failHere _
  iterate 2 exact .last fun _ _ => .last fun _ _ => Scan.ensures_failHere _
  iterate 2 exact Scan.ensures_failHere _
  · split
    · exact .last fun _ _ => Scan.ensures_failHere _
    · exact Scan.ensures_failAhead _
  · exact Scan.ensures_failAhead _

/-- Nor is anything read behind a key that occurs a second time. -/
theorem fails_duplicate {α : Type} (name : String) (cs : List Char) :
    Fails (duplicate name : Scan α) cs :=
  .last fun _ _ => .optionally fun _ => Scan.ensures_failHere _

/-! ## Record numbers -/

namespace Json.Numeral

/-- The number is no natural one: it is a double, or a negative integer. -/
def IsUnnatural (x : Numeral) : Prop :=
  ∀ n, x = .integer n → n < 0

theorem isUnnatural_withSign (negative : Bool) (x : Float) : (withSign negative x).IsUnnatural :=
  nofun

variable (negative : Bool) (significand : Nat) {cs : List Char}

theorem ensures_ofParts (exponent : Int) :
    Ensures (ofParts negative significand exponent) cs fun x _ => x.IsUnnatural := by
  unfold ofParts
  split
  · exact Scan.ensures_pure (isUnnatural_withSign _ _)
  · exact Scan.ensures_failHere _

theorem ensures_exponentPart (exponent : Int) :
    Ensures (exponentPart negative significand exponent) cs fun x _ => x.IsUnnatural := by
  refine .last fun sign _ => .optionally fun _ => ?_
  refine .last fun _ _ => .last fun ds _ => ?_
  split
  · refine .last fun next _ => ?_
    split
    · exact Scan.ensures_failHere _
    · exact Scan.ensures_failAhead _
  · split
    · exact ensures_ofParts _ _ _
    · split
      · exact Scan.ensures_pure (isUnnatural_withSign _ _)
      · exact Scan.ensures_failAt _ _

theorem ensures_scaledPart (exponent : Int) :
    Ensures (scaledPart negative significand exponent) cs fun x _ => x.IsUnnatural := by
  refine .last fun mark _ => ?_
  split
  · exact .last fun _ _ => ensures_exponentPart _ _ _
  · exact ensures_ofParts _ _ _

theorem ensures_fractionPart (leftOver : Nat) :
    Ensures (fractionPart negative significand leftOver) cs fun x _ => x.IsUnnatural := by
  refine .last fun ds _ => ?_
  split
  · refine .last fun next _ => ?_
    split
    · exact Scan.ensures_failHere _
    · exact Scan.ensures_failAhead _
  · exact ensures_scaledPart _ _ _

theorem lt_zero_of_integer? {size : Nat} {n : Int} (h : integer? true size = some n) : n < 0 := by
  simp only [integer?, Bool.not_true, Bool.false_eq_true, if_false] at h
  split at h
  · next hsize =>
    rw [Bool.and_eq_true, decide_eq_true_eq] at hsize
    cases h
    omega
  · cases h

theorem ensures_afterInteger (leftOver : Nat) :
    Ensures (afterInteger true significand leftOver) cs fun x _ => x.IsUnnatural := by
  refine .last fun next _ => ?_
  split
  · exact .last fun _ _ => ensures_fractionPart _ _ _
  · exact ensures_scaledPart _ _ _
  · exact ensures_scaledPart _ _ _
  · split
    · exact ensures_ofParts _ _ _
    · split
      · next n hn =>
        refine Scan.ensures_pure fun m hm => ?_
        cases hm
        exact lt_zero_of_integer? hn
      · exact Scan.ensures_pure (isUnnatural_withSign _ _)

/-- A negative number is no natural one. -/
theorem ensures_scan (cs : List Char) : Ensures (scan true) cs fun x _ => x.IsUnnatural := by
  refine .last fun next _ => ?_
  split
  · exact Scan.ensures_failHere _
  · refine .last fun _ _ => .last fun next _ => ?_
    split
    · exact Scan.ensures_failAhead _
    · exact ensures_afterInteger _ _
  · refine .last fun ds _ => ?_
    split
    · exact Scan.ensures_failAhead _
    · exact ensures_afterInteger _ _

/-- A number with a fraction or an exponent is a double. -/
theorem ensures_afterInteger_of_head? (leftOver : Nat)
    (h : cs.head? = some '.' ∨ cs.head? = some 'e' ∨ cs.head? = some 'E') :
    Ensures (afterInteger negative significand leftOver) cs fun x _ => x.IsUnnatural := by
  refine (Scan.reads_peek cs).ensures_bind ?_
  obtain h | h | h := h <;> rw [h]
  · exact .last fun _ _ => ensures_fractionPart _ _ _
  · exact ensures_scaledPart _ _ _
  · exact ensures_scaledPart _ _ _

/-- So is one with digits that do not fit into 64 bits. -/
theorem ensures_afterInteger_of_pos {leftOver : Nat} (h : 0 < leftOver) :
    Ensures (afterInteger negative significand leftOver) cs fun x _ => x.IsUnnatural := by
  refine .last fun next _ => ?_
  split
  · exact .last fun _ _ => ensures_fractionPart _ _ _
  · exact ensures_scaledPart _ _ _
  · exact ensures_scaledPart _ _ _
  · rw [if_pos h]
    exact ensures_ofParts _ _ _

theorem leftOver_pos {n : Nat} (hn : n ≤ maxSignificand) {ds : List Char}
    (h : maxSignificand < Nat.ofDigitChars 10 ds n) : 0 < (absorb n ds).2 := by
  induction ds generalizing n with
  | nil => exact absurd h (Nat.not_lt.mpr hn)
  | cons d ds ih =>
    rw [absorb]
    split
    · exact Nat.zero_lt_succ _
    · next hfits =>
      rw [Nat.ofDigitChars_cons] at h
      exact ih (Nat.not_lt.mp hfits) h

/-- Behind the digits of the integer part, its significand is known. -/
theorem becomes_scan (n : NumberText) {rest : List Char}
    (hrest : ∀ c ∈ rest.head?, c.isDigit = false) :
    Becomes (scan false) (n.whole.chars ++ rest)
      (afterInteger false (absorb 0 n.whole.chars).1 (absorb 0 n.whole.chars).2) rest := by
  refine (Scan.reads_peek _).becomes.trans ?_
  by_cases hzero : n.whole.chars.head? = some '0'
  · have hnext := any_isDigit_eq_false hrest
    rw [n.whole_eq hzero]
    refine (Scan.reads_skip '0' rest).becomes.trans ((Scan.reads_peek rest).becomes.trans ?_)
    rw [hnext]
    exact .refl _ _
  · have hdigits := reads_digits n.whole.isDigit hrest
    obtain ⟨d, ds, hds, -⟩ := n.whole.exists_cons
    rw [hds] at hzero hdigits ⊢
    split
    · next h => cases h
    · next h => exact absurd h hzero
    · exact hdigits.becomes

end Json.Numeral

section
variable {x : Numeral} {cs gap rest : List Char}

theorem fails_ofNumeral (h : x.IsUnnatural) : Fails (ofNumeral x) cs := by
  cases x with
  | real x => exact Scan.ensures_failHere _
  | integer n =>
    have hneg : ¬(0 ≤ n ∧ n < UInt32.size) := fun hn => absurd hn.1 (Int.not_le.mpr (h n rfl))
    rw [ofNumeral, if_neg hneg]
    exact Scan.ensures_failHere _

theorem gives_ofNumeral (n : Nat) (rest : List Char) :
    Gives (ofNumeral (.integer n)) rest
      (if n < UInt32.size then some (.ofNat n) else none) rest := by
  rw [ofNumeral]
  split
  · next hn =>
    have hlt : n < UInt32.size := Int.ofNat_lt.mp hn.2
    rw [if_pos hlt, Int.toNat_natCast]
    exact .pure _ _
  · next hn =>
    have hnot : ¬n < UInt32.size := fun hlt =>
      hn ⟨Int.natCast_nonneg n, Int.ofNat_lt.mpr hlt⟩
    rw [if_neg hnot]
    exact Scan.ensures_failHere _

/-- The record number of a number without a sign. -/
theorem gives_numeral {n : NumberText} (hsign : n.negative = false) (hrest : Delimits rest) :
    Gives (do ofNumeral (← Numeral.scan false)) (n.size ++ rest) n.value? rest := by
  rw [NumberText.size, List.append_assoc, List.append_assoc]
  have hwhole := NumberText.head?_fractionChars n.fraction n.exponent hrest
  have hscan := Numeral.becomes_scan n hwhole
  refine hscan.bind.gives ?_
  by_cases hparts : n.fraction.isSome ∨ n.exponent.isSome
  · have hvalue : n.value? = none := by
      rw [NumberText.value?, if_pos (by simpa [hsign] using hparts)]
    rw [hvalue]
    refine Ensures.bind (Numeral.ensures_afterInteger_of_head? _ _ _ ?_) fun x _ => fails_ofNumeral
    cases hfraction : n.fraction with
    | some digits => exact .inl rfl
    | none =>
      cases hexponent : n.exponent with
      | some e => exact .inr (e.letter_eq.imp (congrArg some) (congrArg some))
      | none => simp [hfraction, hexponent] at hparts
  · obtain ⟨hfraction, hexponent⟩ := not_or.mp hparts
    rw [Option.not_isSome_iff_eq_none] at hfraction hexponent
    rw [NumberText.value?, hsign, hfraction, hexponent]
    simp only [NumberText.fractionChars, NumberText.exponentChars, List.nil_append,
      Option.isSome_none, Bool.or_self, Bool.false_eq_true, if_false]
    by_cases hmax : Nat.ofDigitChars 10 n.whole.chars 0 ≤ Numeral.maxSignificand
    · rw [Numeral.absorb_eq hmax]
      exact (Numeral.reads_afterInteger hrest _).gives_bind (gives_ofNumeral _ rest)
    · have hlarge : ¬Nat.ofDigitChars 10 n.whole.chars 0 < UInt32.size := fun hlt =>
        hmax (Nat.le_trans (Nat.le_of_lt hlt) (by decide))
      have hleft := Numeral.leftOver_pos (Nat.zero_le _) (Nat.not_le.mp hmax)
      rw [if_neg hlarge]
      exact Ensures.bind (Numeral.ensures_afterInteger_of_pos _ _ hleft) fun x _ => fails_ofNumeral

end

/-! ## Texts -/

namespace Json.Scan

theorem reads_textChar_plain {c : Char} (h : c ≠ '"' ∧ c ≠ '\\' ∧ 0x20 ≤ c.toNat)
    (rest : List Char) : Reads textChar (c :: rest) (some c) rest := by
  obtain ⟨hquote, hbackslash, hcontrol⟩ := h
  refine (reads_peek _).bind ?_
  simp only [List.head?_cons]
  rw [if_neg (Nat.not_lt.mpr hcontrol)]
  exact (reads_skip _ _).bind (.pure _ _)

theorem reads_textChar_letter {c escaped : Char} (h : shortEscape? c = some escaped)
    (rest : List Char) : Reads textChar ('\\' :: c :: rest) (some escaped) rest :=
  (reads_peek _).bind ((reads_skip _ _).bind (reads_escape_letter some _ h rest))

theorem gives_textChar_unit {cs rest : List Char} {result : Option Char}
    (h : Gives numberedChar cs result rest) :
    Gives textChar ('\\' :: 'u' :: cs) (result.map some) rest :=
  (reads_peek _).gives_bind ((reads_skip _ _).gives_bind
    ((reads_peek _).gives_bind ((reads_skip _ _).gives_bind (h.map some))))

theorem fails_textChar_unit {cs : List Char} (h : Fails numberedChar cs) :
    Fails textChar ('\\' :: 'u' :: cs) := by
  have hgives : Gives numberedChar cs none [] := h
  exact gives_textChar_unit hgives

theorem reads_pairMark (c : Char) (cs : List Char) : Reads (pairMark c) (c :: cs) () cs := by
  refine (reads_peek _).bind ?_
  simp only [List.head?_cons, if_true]
  exact reads_skip _ _

theorem fails_pairMark {expected c : Char} (h : c ≠ expected) (cs : List Char) :
    Fails (pairMark expected) (c :: cs) := by
  refine (reads_peek _).ensures_bind ?_
  simp only [List.head?_cons, if_neg h]
  exact ensures_failAhead _

section
variable {digits : List Char} {n : Nat} (h : hexValue4? digits = some n) (rest : List Char)
include h

theorem fails_numberedChar_of_low (hlow : isLowSurrogate n) :
    Fails numberedChar (digits ++ rest) := by
  refine (reads_hexUnit h rest).ensures_bind ?_
  rw [if_pos hlow]
  exact ensures_failHere _

/-- Behind a high surrogate, another escape by number has to follow. -/
theorem becomes_numberedChar_of_high (hlow : ¬isLowSurrogate n) (hhigh : isHighSurrogate n) :
    Becomes numberedChar (digits ++ rest)
      (do
        pairMark '\\'
        pairMark 'u'
        let low ← hexUnit
        if isLowSurrogate low then
          return .ofNat ((n - 0xD800) * 1024 + (low - 0xDC00) + 0x10000)
        else failHere .loneSurrogate) rest := by
  refine (reads_hexUnit h rest).becomes.trans ?_
  rw [if_neg hlow, if_pos hhigh]
  exact .refl _ _

theorem gives_numberedChar_of_pair (hlow : ¬isLowSurrogate n) (hhigh : isHighSurrogate n)
    {digits' : List Char} {low : Nat} (h' : hexValue4? digits' = some low) :
    Gives numberedChar (digits ++ ('\\' :: 'u' :: digits' ++ rest))
      (if isLowSurrogate low then
        some (.ofNat ((n - 0xD800) * 1024 + (low - 0xDC00) + 0x10000))
      else none) rest := by
  refine (becomes_numberedChar_of_high h _ hlow hhigh).gives ?_
  refine (reads_pairMark _ _).gives_bind ((reads_pairMark _ _).gives_bind ?_)
  refine (reads_hexUnit h' rest).gives_bind ?_
  split
  · exact Reads.pure _ _
  · exact ensures_failHere _

/-- Anything else fails there. -/
theorem fails_numberedChar_of_unpaired (hlow : ¬isLowSurrogate n) (hhigh : isHighSurrogate n)
    {glyphs : List Glyph}
    (hglyphs : ∀ (low : Nat) (digits' : List Char) (h' : hexValue4? digits' = some low)
      (glyphs' : List Glyph), glyphs ≠ .unit low digits' h' :: glyphs') :
    Fails numberedChar (digits ++ (glyphs.flatMap Glyph.chars ++ '"' :: rest)) := by
  refine (becomes_numberedChar_of_high h _ hlow hhigh).ensures ?_
  cases glyphs with
  | nil => exact Fails.bind (fails_pairMark (by decide) rest)
  | cons g glyphs =>
    cases g with
    | plain c hc => exact Fails.bind (fails_pairMark hc.2.1 _)
    | letter c escaped hc =>
      have hu : c ≠ 'u' := by
        rintro rfl
        cases hc
      exact (reads_pairMark _ _).ensures_bind (Fails.bind (fails_pairMark hu _))
    | unit low digits' h' => exact absurd rfl (hglyphs low digits' h' glyphs)

end

theorem fails_textWithin {cs : List Char} (h : Fails textChar cs) (read fuel : List Char) :
    Fails (textWithin read fuel) cs := by
  cases fuel with
  | nil => exact ensures_failHere _
  | cons _ left => exact Fails.bind h

/-- Behind a character, the rest of the text is read with a step less. -/
theorem gives_textWithin_cons {c : Char} {cs mid read fuel : List Char} {n : Nat}
    {text? : Option (List Char)} (h : Reads textChar cs (some c) mid)
    (ih : ∀ (read : List Char) {left : List Char}, n < left.length →
      Gives (textWithin read left) mid
        (text?.map fun cs => String.ofList (read.reverse ++ cs)) rest)
    (hfuel : n + 1 < fuel.length) :
    Gives (textWithin read fuel) cs
      ((text?.map (c :: ·)).map fun cs => String.ofList (read.reverse ++ cs)) rest := by
  obtain _ | ⟨_, left⟩ := fuel
  · cases hfuel
  have htext : ((text?.map (c :: ·)).map fun cs => String.ofList (read.reverse ++ cs)) =
      text?.map fun cs => String.ofList ((c :: read).reverse ++ cs) := by
    rw [Option.map_map, List.reverse_cons]
    exact Option.map_congr fun cs _ => congrArg String.ofList (by simp)
  rw [htext]
  exact h.gives_bind (ih (c :: read) (Nat.lt_of_succ_lt_succ hfuel))

/-- A text is read if each surrogate in it has its partner. -/
theorem gives_textWithin (glyphs : List Glyph) (read rest : List Char) {fuel : List Char}
    (hfuel : glyphs.length < fuel.length) :
    Gives (textWithin read fuel) (glyphs.flatMap Glyph.chars ++ '"' :: rest)
      ((Glyph.textOf? glyphs).map fun cs => String.ofList (read.reverse ++ cs)) rest := by
  induction glyphs using Glyph.textOf?.induct generalizing read fuel with
  | case1 =>
    obtain _ | ⟨_, left⟩ := fuel
    · cases hfuel
    have hquote : Reads textChar ('"' :: rest) none rest := fun offset => ⟨_, rfl⟩
    refine hquote.gives_bind ?_
    rw [Glyph.textOf?, Option.map_some, List.append_nil]
    exact Reads.pure _ _
  | case2 c h glyphs ih =>
    rw [Glyph.textOf?]
    exact gives_textWithin_cons (reads_textChar_plain h _) ih hfuel
  | case3 letter c h glyphs ih =>
    rw [Glyph.textOf?]
    exact gives_textWithin_cons (reads_textChar_letter h _) ih hfuel
  | case4 n digits h glyphs hlow =>
    have hunit := fails_textChar_unit
      (fails_numberedChar_of_low h (glyphs.flatMap Glyph.chars ++ '"' :: rest) hlow)
    rw [Glyph.textOf?_of_low h glyphs hlow, List.flatMap_cons, List.append_assoc]
    exact fails_textWithin hunit read fuel
  | case5 n digits h hlow hhigh low digits' h' glyphs hpair ih =>
    have hunit := gives_textChar_unit
      (gives_numberedChar_of_pair h (glyphs.flatMap Glyph.chars ++ '"' :: rest) hlow hhigh h')
    rw [if_pos hpair] at hunit
    rw [Glyph.textOf?, if_neg hlow, if_pos hhigh, if_pos hpair]
    simp only [List.flatMap_cons, List.append_assoc]
    exact gives_textWithin_cons hunit ih (Nat.lt_of_succ_lt hfuel)
  | case6 n digits h hlow hhigh low digits' h' glyphs hpair =>
    have hunit := gives_textChar_unit
      (gives_numberedChar_of_pair h (glyphs.flatMap Glyph.chars ++ '"' :: rest) hlow hhigh h')
    rw [if_neg hpair] at hunit
    rw [Glyph.textOf?, if_neg hlow, if_pos hhigh, if_neg hpair]
    simp only [List.flatMap_cons, List.append_assoc]
    exact fails_textWithin hunit read fuel
  | case7 n digits h glyphs hlow hhigh hglyphs =>
    have hunit := fails_textChar_unit
      (fails_numberedChar_of_unpaired h rest hlow hhigh hglyphs)
    rw [Glyph.textOf?_of_unpaired h hlow hhigh hglyphs, List.flatMap_cons, List.append_assoc]
    exact fails_textWithin hunit read fuel
  | case8 n digits h glyphs hlow hhigh ih =>
    have hchar := reads_numberedChar h (eq_false_of_ne_true hhigh) (eq_false_of_ne_true hlow)
      (glyphs.flatMap Glyph.chars ++ '"' :: rest)
    rw [Glyph.textOf?_of_single h glyphs hlow hhigh, List.flatMap_cons, List.append_assoc]
    exact gives_textWithin_cons (gives_textChar_unit hchar.gives) ih hfuel

theorem gives_text (glyphs : List Glyph) (rest : List Char) :
    Gives text (glyphs.flatMap Glyph.chars ++ ['"'] ++ rest) (Glyph.read? glyphs) rest := by
  rw [List.append_assoc]
  apply Gives.lookahead
  exact gives_textWithin glyphs [] rest (Glyph.length_lt glyphs rest)

end Json.Scan

/-! ## Values of records -/

namespace Json.Node

/-- The record number that a value is. -/
def number? : Node → Option UInt32
  | number n => n.value?
  | _ => none

/-- The text that a value is. -/
def text? : Node → Option String
  | text glyphs => Glyph.read? glyphs
  | _ => none

/-- The one of the names that a value is, alone or as a key. -/
def choice? (names : List String) : Node → Option String
  | text glyphs => (Glyph.read? glyphs).filter names.contains
  | object [(key, null)] => (Glyph.read? key).filter names.contains
  | _ => none

/-- Only numbers begin with a digit. -/
theorem Begins.isDigit_eq_false {n : Node} {c : Char} (h : n.Begins c)
    (hn : ∀ x, n ≠ number x) : c.isDigit = false := by
  cases n with
  | number x => exact absurd rfl (hn x)
  | boolean _ => obtain rfl | rfl := h <;> rfl
  | _ =>
    obtain rfl := h
    rfl

end Json.Node

section
variable {n : Node} {gap cs rest : List Char} (hgap : IsGap gap)
include hgap

theorem gives_number (h : Written n cs) (hrest : Delimits rest) :
    Gives number (gap ++ (cs ++ rest)) n.number? rest := by
  cases n with
  | number n =>
    cases h with
    | number n =>
      cases hsign : n.negative with
      | true =>
        have hvalue : n.value? = none := by rw [NumberText.value?, hsign, Bool.true_or,
          Bool.true_or, if_pos rfl]
        rw [Node.number?, hvalue, NumberText.chars, if_pos hsign]
        refine (reads_token hgap rfl _).ensures_bind ?_
        refine (Scan.reads_skip _ _).ensures_bind ?_
        exact (Numeral.ensures_scan _).bind fun x _ => fails_ofNumeral
      | false =>
        have hsize := gives_numeral hsign hrest
        obtain ⟨c, cs, hcs, hdigit⟩ : ∃ c cs, n.size = c :: cs ∧ c.isDigit := by
          obtain ⟨d, ds, hds, hdigit, -⟩ := n.whole.exists_cons
          exact ⟨d, _, by rw [NumberText.size, hds, List.cons_append], hdigit⟩
        rw [NumberText.chars, hsign, if_neg Bool.false_ne_true]
        rw [hcs] at hsize ⊢
        refine (reads_token hgap (isGap_of_isDigit hdigit) _).gives_bind ?_
        rw [if_neg (ne_of_isDigit hdigit '-' rfl), if_pos hdigit]
        exact hsize
  | _ =>
    obtain ⟨c, cs, rfl, hbegins⟩ := h.exists_cons
    have hdigit := hbegins.isDigit_eq_false (by simp)
    refine (reads_token hgap hbegins.isToken.1 _).ensures_bind ?_
    rw [if_neg (hbegins.ne (by simp [Node.Begins])), if_neg (by simp [hdigit])]
    exact fails_mismatch _ _

theorem gives_text (h : Written n cs) :
    Gives text (gap ++ (cs ++ rest)) n.text? rest := by
  cases n with
  | text glyphs =>
    cases h with
    | text glyphs =>
      refine (reads_token hgap rfl _).gives_bind ?_
      exact (Scan.reads_skip _ _).gives_bind (Scan.gives_text glyphs rest)
  | _ =>
    obtain ⟨c, cs, rfl, hbegins⟩ := h.exists_cons
    refine (reads_token hgap hbegins.isToken.1 _).ensures_bind ?_
    rw [if_neg (hbegins.ne (by simp [Node.Begins]))]
    exact fails_mismatch _ _

end

theorem gives_variant (names : List String) (glyphs : List Glyph) (rest : List Char) :
    Gives (variant names) (Glyph.quote glyphs ++ rest)
      ((Glyph.read? glyphs).filter names.contains) rest := by
  refine (Scan.reads_skip _ _).gives_bind ?_
  have hname : (Glyph.read? glyphs).filter names.contains = (Glyph.read? glyphs).bind fun name =>
      if names.contains name then some name else none := by
    cases Glyph.read? glyphs <;> rfl
  rw [hname]
  refine (Scan.gives_text glyphs rest).bind fun name _ => ?_
  split
  · exact Reads.pure name rest
  · exact Scan.ensures_failHere _

section
variable {n : Node} {gap cs rest : List Char} (hgap : IsGap gap)
include hgap

theorem gives_variantKey (names : List String) (key : List Glyph) (rest : List Char) :
    Gives (variantKey names) (gap ++ (Glyph.quote key ++ rest))
      ((Glyph.read? key).filter names.contains) rest :=
  (Scan.reads_peekToken hgap rfl _).gives_bind (gives_variant names key rest)

/-- An object is a name if it has one key and `null` behind it. -/
theorem gives_choice_object {members : List (List Glyph × Node)}
    (h : WrittenMembers true members cs) (names : List String) :
    Gives (choice names) (gap ++ '\x7b' :: (cs ++ rest)) ((Node.object members).choice? names)
      rest := by
  refine (Scan.reads_peekToken hgap rfl _).gives_bind ((Scan.reads_skip _ _).gives_bind ?_)
  obtain _ | ⟨⟨key, value⟩, members⟩ := members
  · cases h with
    | close _ hclose =>
      rw [List.append_assoc]
      refine Fails.bind ((Scan.reads_peekToken hclose rfl _).ensures_bind ?_)
      exact Scan.ensures_failAhead _
  obtain _ | ⟨⟨hlead⟩, hcolon, hvalue, h, hs⟩ := h
  simp only [List.append_assoc, List.cons_append]
  have hkey := gives_variantKey hlead names key
  cases value with
  | null =>
    cases h with
    | null =>
      cases hs with
      | close _ hclose =>
        have hresult : (Node.object [(key, .null)]).choice? names =
            ((Glyph.read? key).filter names.contains).bind some :=
          (Option.bind_fun_some _).symm
        rw [hresult]
        refine (hkey _).bind fun name _ => (Scan.reads_colon hcolon _).bind ?_
        refine (reads_token hvalue rfl _).bind ((reads_null _).bind ?_)
        rw [List.append_assoc]
        exact (Scan.reads_peekToken hclose rfl _).bind ((Scan.reads_skip _ _).bind (.pure _ _))
      | member hnext hcolon' hvalue' h' hs' =>
        cases hnext with
        | next hnext hkey' =>
          refine Gives.fails_bind (hkey _) fun name => (Scan.reads_colon hcolon _).ensures_bind ?_
          refine (reads_token hvalue rfl _).ensures_bind ((reads_null _).ensures_bind ?_)
          simp only [List.append_assoc, List.cons_append]
          refine (Scan.reads_peekToken hnext rfl _).ensures_bind ?_
          exact Scan.ensures_failHere _
  | _ =>
    refine Gives.fails_bind (hkey _) fun name => (Scan.reads_colon hcolon _).ensures_bind ?_
    obtain ⟨c, cs, rfl, hbegins⟩ := h.exists_cons
    refine (reads_token hvalue hbegins.isToken.1 _).ensures_bind ?_
    rw [if_neg (hbegins.ne (by simp [Node.Begins]))]
    exact Fails.bind (fails_mismatch _ _)

theorem gives_choice (h : Written n cs) (names : List String) :
    Gives (choice names) (gap ++ (cs ++ rest)) (n.choice? names) rest := by
  cases n with
  | text glyphs =>
    cases h with
    | text glyphs =>
      exact (Scan.reads_peekToken hgap rfl _).gives_bind (gives_variant names glyphs rest)
  | object members =>
    cases h with
    | object h => exact gives_choice_object hgap h names
  | _ =>
    obtain ⟨c, cs, rfl, hbegins⟩ := h.exists_cons
    refine (Scan.reads_peekToken hgap hbegins.isToken.1 _).ensures_bind ?_
    split
    · next h => exact absurd (Option.some.inj h) (hbegins.ne (by simp [Node.Begins]))
    · next h => exact absurd (Option.some.inj h) (hbegins.ne (by simp [Node.Begins]))
    · exact Scan.ensures_failAhead _
    · exact Scan.ensures_failAhead _

end

end InterlockLadder
