import InterlockLadder.Proofs.Outcomes
import Mathlib.Data.List.TakeWhile

/-! What scanners accept. Each of them reads all of a text, a number or a key
(`Scan.ensures_text`, `Numeral.ensures_scan_size`, `Scan.ensures_passKey_curly`), with the tokens
that write it, or reads nothing. So what is passed over because no record declares it is a value as
well, however its brackets are nested (`Scan.recognizes_passValue`). -/

namespace InterlockLadder.Json

namespace Scan

/-! ## Gaps and digits -/

theorem Ensures.imp {α : Type} {m : Scan α} {cs : List Char} {p q : α → List Char → Prop}
    (h : Ensures m cs p) (hpq : ∀ a rest, p a rest → q a rest) : Ensures m cs q :=
  fun offset a rest behind hrun => hpq a rest (h offset a rest behind hrun)

theorem Ensures.map {α β : Type} {m : Scan α} {cs : List Char} (g : α → β)
    {q : β → List Char → Prop} (h : Ensures m cs fun a rest => q (g a) rest) :
    Ensures (g <$> m) cs q := by
  rw [map_eq_pure_bind]
  exact h.bind fun a mid ha => ensures_pure ha

/-- A scanner that looks at all that is left. -/
theorem Ensures.lookahead {α : Type} {f : List Char → Scan α} {cs : List Char}
    {p : α → List Char → Prop} (h : Ensures (f cs) cs p) : Ensures (do f (← get).rest) cs p :=
  h

theorem Reads.ensures {α : Type} {m : Scan α} {cs rest : List Char} {a : α}
    {p : α → List Char → Prop} (h : Reads m cs a rest) (hp : p a rest) : Ensures m cs p := by
  intro offset b behind _ hrun
  obtain ⟨between, heq⟩ := h offset
  rw [heq] at hrun
  cases hrun
  exact hp

theorem exists_peekToken (cs : List Char) :
    ∃ gap rest, cs = gap ++ rest ∧ IsGap gap ∧ Reads peekToken cs rest.head? rest := by
  refine ⟨cs.takeWhile isGap, cs.dropWhile isGap, List.takeWhile_append_dropWhile.symm,
    fun c hc => List.mem_takeWhile_imp hc, ?_⟩
  exact fun offset => ⟨_, rfl⟩

theorem exists_digits (cs : List Char) :
    ∃ ds rest, cs = ds ++ rest ∧ (∀ d ∈ ds, d.isDigit) ∧ Reads digits cs ds rest := by
  refine ⟨cs.takeWhile Char.isDigit, cs.dropWhile Char.isDigit,
    List.takeWhile_append_dropWhile.symm, fun c hc => List.mem_takeWhile_imp hc, ?_⟩
  exact fun offset => ⟨_, rfl⟩

theorem ensures_ident (letters cs : List Char) :
    Ensures (ident letters) cs fun _ rest => cs = letters ++ rest := by
  induction letters generalizing cs with
  | nil => exact ensures_pure rfl
  | cons c letters ih =>
    refine (reads_peek cs).ensures_bind ?_
    split
    · exact ensures_failHere _
    · next next hnext =>
      obtain ⟨rest, rfl⟩ := List.head?_eq_some_iff.mp hnext
      split
      · next heq =>
        obtain rfl := heq
        refine (reads_skip _ _).ensures_bind ((ih rest).imp ?_)
        rintro _ behind rfl
        rfl
      · exact ensures_failAhead _

theorem ensures_colon (cs : List Char) :
    Ensures colon cs fun _ rest => ∃ gap, IsGap gap ∧ cs = gap ++ ':' :: rest := by
  obtain ⟨gap, mid, rfl, hgap, hpeek⟩ := exists_peekToken cs
  refine hpeek.ensures_bind ?_
  split
  · next hnext =>
    obtain ⟨rest, rfl⟩ := List.head?_eq_some_iff.mp hnext
    exact (reads_skip _ _).ensures ⟨gap, hgap, rfl⟩
  · exact ensures_failAhead _
  · exact ensures_failAhead _

/-! ## Texts -/

theorem ensures_hexUnit (cs : List Char) :
    Ensures hexUnit cs fun n rest =>
      ∃ digits, hexValue4? digits = some n ∧ cs = digits ++ rest := by
  intro offset n rest behind hrun
  rw [hexUnit, StateT.run_bind, StateT.run_get, pure_bind] at hrun
  cases hfour : hexValue4? (cs.take 4) with
  | none =>
    simp only [hfour] at hrun
    split at hrun <;> cases hrun
  | some m =>
    simp only [hfour] at hrun
    cases hrun
    exact ⟨cs.take 4, hfour, (List.take_append_drop 4 cs).symm⟩

theorem ensures_pairMark (c : Char) (cs : List Char) :
    Ensures (pairMark c) cs fun _ rest => cs = c :: rest := by
  refine (reads_peek cs).ensures_bind ?_
  split
  · exact ensures_failHere _
  · next next hnext =>
    obtain ⟨rest, rfl⟩ := List.head?_eq_some_iff.mp hnext
    split
    · next heq =>
      obtain rfl := heq
      exact (reads_skip _ _).ensures rfl
    · exact ensures_failAhead _

/-- A character of an escape by number takes one or two of them. -/
theorem ensures_numberedChar (cs : List Char) :
    Ensures numberedChar cs fun _ rest =>
      ∃ glyphs : List Glyph, '\\' :: 'u' :: cs = glyphs.flatMap Glyph.chars ++ rest := by
  refine (ensures_hexUnit cs).bind ?_
  rintro high _ ⟨digits, hdigits, rfl⟩
  split
  · exact ensures_failHere _
  · split
    · refine (ensures_pairMark '\\' _).bind ?_
      rintro _ mid rfl
      refine (ensures_pairMark 'u' _).bind ?_
      rintro _ mid rfl
      refine (ensures_hexUnit mid).bind ?_
      rintro low rest ⟨digits', hdigits', rfl⟩
      split
      · exact ensures_pure ⟨[.unit high digits hdigits, .unit low digits' hdigits'],
          by simp [Glyph.chars]⟩
      · exact ensures_failHere _
    · exact ensures_pure ⟨[.unit high digits hdigits], by simp [Glyph.chars]⟩

theorem ensures_escape {α : Type} {p : α → Prop} {short : Char → α} (hshort : ∀ c, p (short c))
    {numbered : Scan α} {cs : List Char}
    (h : ∀ cs, Ensures numbered cs fun a rest => p a ∧
      ∃ glyphs : List Glyph, '\\' :: 'u' :: cs = glyphs.flatMap Glyph.chars ++ rest) :
    Ensures (escape short numbered) cs fun a rest => p a ∧
      ∃ glyphs : List Glyph, '\\' :: cs = glyphs.flatMap Glyph.chars ++ rest := by
  refine (reads_peek cs).ensures_bind ?_
  split
  · exact ensures_failHere _
  · next c hc =>
    obtain ⟨cs, rfl⟩ := List.head?_eq_some_iff.mp hc
    split
    · next escaped hescaped =>
      refine (reads_skip _ _).ensures_bind (ensures_pure ⟨hshort escaped, ?_⟩)
      exact ⟨[.letter c escaped hescaped], by simp [Glyph.chars]⟩
    · split
      · next heq =>
        obtain rfl := heq
        exact (reads_skip _ _).ensures_bind (h cs)
      · exact ensures_failAhead _

theorem exists_glyphs_plain {c : Char} (hquote : c ≠ '"') (hbackslash : c ≠ '\\')
    (hcontrol : ¬c.toNat < 0x20) (rest : List Char) :
    ∃ glyphs : List Glyph, c :: rest = glyphs.flatMap Glyph.chars ++ rest :=
  ⟨[.plain c ⟨hquote, hbackslash, Nat.not_lt.mp hcontrol⟩], by simp [Glyph.chars]⟩

theorem ensures_textChar (cs : List Char) :
    Ensures textChar cs fun c? rest =>
      c? = none ∧ cs = '"' :: rest ∨
        c?.isSome ∧ ∃ glyphs : List Glyph, cs = glyphs.flatMap Glyph.chars ++ rest := by
  refine (reads_peek cs).ensures_bind ?_
  split
  · exact ensures_failHere _
  · next hc =>
    obtain ⟨cs, rfl⟩ := List.head?_eq_some_iff.mp hc
    exact (reads_skip _ _).ensures_bind (ensures_pure (.inl ⟨rfl, rfl⟩))
  · next hc =>
    obtain ⟨cs, rfl⟩ := List.head?_eq_some_iff.mp hc
    refine (reads_skip _ _).ensures_bind ?_
    refine (ensures_escape (p := fun c? => c?.isSome) (fun _ => rfl) fun cs => ?_).imp
      fun _ _ => .inr
    exact ((ensures_numberedChar cs).imp fun _ _ h => ⟨rfl, h⟩).map some
  · next c hquote hbackslash hc =>
    obtain ⟨cs, rfl⟩ := List.head?_eq_some_iff.mp hc
    split
    · exact ensures_failAhead _
    · next hcontrol =>
      have hplain := exists_glyphs_plain hquote hbackslash hcontrol cs
      exact (reads_skip _ _).ensures_bind (ensures_pure (.inr ⟨rfl, hplain⟩))

theorem ensures_textWithin (read fuel cs : List Char) :
    Ensures (textWithin read fuel) cs fun _ rest =>
      ∃ glyphs : List Glyph, cs = glyphs.flatMap Glyph.chars ++ '"' :: rest := by
  induction fuel generalizing read cs with
  | nil => exact ensures_failHere _
  | cons _ left ih =>
    refine (ensures_textChar cs).bind ?_
    rintro c? mid (⟨rfl, rfl⟩ | ⟨hsome, glyphs, rfl⟩)
    · exact ensures_pure ⟨[], rfl⟩
    · obtain ⟨c, rfl⟩ := Option.isSome_iff_exists.mp hsome
      refine (ih (c :: read) mid).imp ?_
      rintro _ rest ⟨glyphs', rfl⟩
      exact ⟨glyphs ++ glyphs', by simp⟩

theorem ensures_text (cs : List Char) :
    Ensures text cs fun _ rest => ∃ glyphs, '"' :: cs = Glyph.quote glyphs ++ rest := by
  refine Ensures.lookahead ((ensures_textWithin [] cs cs).imp ?_)
  rintro _ rest ⟨glyphs, rfl⟩
  exact ⟨glyphs, by simp [Glyph.quote]⟩

theorem ensures_passChar (cs : List Char) :
    Ensures passChar cs fun more rest =>
      more = false ∧ cs = '"' :: rest ∨
        more = true ∧ ∃ glyphs : List Glyph, cs = glyphs.flatMap Glyph.chars ++ rest := by
  refine (reads_peek cs).ensures_bind ?_
  split
  · exact ensures_failHere _
  · next hc =>
    obtain ⟨cs, rfl⟩ := List.head?_eq_some_iff.mp hc
    exact (reads_skip _ _).ensures_bind (ensures_pure (.inl ⟨rfl, rfl⟩))
  · next hc =>
    obtain ⟨cs, rfl⟩ := List.head?_eq_some_iff.mp hc
    refine (reads_skip _ _).ensures_bind ?_
    refine (ensures_escape (p := fun more => more = true) (fun _ => rfl) fun cs => ?_).imp
      fun _ _ => .inr
    refine Ensures.map _ ((ensures_hexUnit cs).imp ?_)
    rintro n rest ⟨digits, hdigits, rfl⟩
    exact ⟨rfl, [.unit n digits hdigits], by simp [Glyph.chars]⟩
  · next c hquote hbackslash hc =>
    obtain ⟨cs, rfl⟩ := List.head?_eq_some_iff.mp hc
    split
    · exact ensures_failHere _
    · next hcontrol =>
      have hplain := exists_glyphs_plain hquote hbackslash hcontrol cs
      exact (reads_skip _ _).ensures_bind (ensures_pure (.inr ⟨rfl, hplain⟩))

theorem ensures_passTextWithin (fuel cs : List Char) :
    Ensures (passTextWithin fuel) cs fun _ rest =>
      ∃ glyphs : List Glyph, cs = glyphs.flatMap Glyph.chars ++ '"' :: rest := by
  induction fuel generalizing cs with
  | nil => exact ensures_failHere _
  | cons _ left ih =>
    refine (ensures_passChar cs).bind ?_
    rintro more mid (⟨rfl, rfl⟩ | ⟨rfl, glyphs, rfl⟩)
    · exact ensures_pure ⟨[], rfl⟩
    · refine (ih mid).imp ?_
      rintro _ rest ⟨glyphs', rfl⟩
      exact ⟨glyphs ++ glyphs', by simp⟩

theorem ensures_passText (cs : List Char) :
    Ensures passText cs fun _ rest => ∃ glyphs, '"' :: cs = Glyph.quote glyphs ++ rest := by
  refine Ensures.lookahead ((ensures_passTextWithin cs cs).imp ?_)
  rintro _ rest ⟨glyphs, rfl⟩
  exact ⟨glyphs, by simp [Glyph.quote]⟩

/-! ## Numbers -/

section
variable {α : Type} {q : α → List Char → Prop}

theorem ensures_get_bind {f : Cursor → Scan α} {cs : List Char}
    (h : ∀ offset, Ensures (f ⟨cs, offset⟩) cs q) : Ensures (do f (← get)) cs q :=
  fun offset => h offset offset

/-- Digits are read if there is at least one of them. -/
theorem ensures_digits_bind {f : List Char → Scan α} {cs : List Char}
    (hnone : ∀ cs, Ensures (f []) cs q)
    (hsome : ∀ (digits : Digits) (mid : List Char), cs = digits.chars ++ mid →
      Ensures (f digits.chars) mid q) :
    Ensures (digits >>= f) cs q := by
  obtain ⟨ds, mid, rfl, hds, hread⟩ := exists_digits cs
  refine hread.ensures_bind ?_
  by_cases hnil : ds = []
  · rw [hnil]
    exact hnone mid
  · exact hsome ⟨ds, hnil, hds⟩ mid rfl

/-- A sign is read if there is one. -/
theorem ensures_sign_bind {f : Option Char → Scan α} {cs : List Char}
    (h : ∀ (next : Option Char) (sign : Option Char) (mid : List Char),
      (∀ c ∈ sign, c = '+' ∨ c = '-') → cs = sign.toList ++ mid → Ensures (f next) mid q) :
    Ensures (do
      let sign ← peek
      if sign = some '+' || sign = some '-' then skip
      f sign) cs q := by
  refine (reads_peek cs).ensures_bind ?_
  split
  · next hsign =>
    obtain ⟨c, hc, hhead⟩ : ∃ c, (c = '+' ∨ c = '-') ∧ cs.head? = some c := by
      rw [Bool.or_eq_true, decide_eq_true_eq, decide_eq_true_eq] at hsign
      obtain hplus | hminus := hsign
      · exact ⟨'+', .inl rfl, hplus⟩
      · exact ⟨'-', .inr rfl, hminus⟩
    obtain ⟨mid, rfl⟩ := List.head?_eq_some_iff.mp hhead
    exact (reads_skip _ _).ensures_bind (h _ (some c) mid (by simpa using hc) rfl)
  · exact h _ none cs (by simp) rfl

/-- An exponent is read if there is one. -/
theorem ensures_exponent_bind {m m' : Scan α} {cs : List Char}
    (h : ∀ cs, Ensures m cs fun _ rest => ∃ (sign : Option Char) (digits : Digits),
      (∀ c ∈ sign, c = '+' ∨ c = '-') ∧ cs = sign.toList ++ (digits.chars ++ rest))
    (h' : ∀ cs, Ensures m' cs fun _ rest => cs = rest) :
    Ensures (do
      let mark ← peek
      if mark = some 'e' || mark = some 'E' then
        skip
        m
      else m') cs fun _ rest => ∃ exponent, cs = NumberText.exponentChars exponent ++ rest := by
  refine (reads_peek cs).ensures_bind ?_
  split
  · next hmark =>
    obtain ⟨c, hc, hhead⟩ : ∃ c, (c = 'e' ∨ c = 'E') ∧ cs.head? = some c := by
      rw [Bool.or_eq_true, decide_eq_true_eq, decide_eq_true_eq] at hmark
      obtain hlower | hupper := hmark
      · exact ⟨'e', .inl rfl, hlower⟩
      · exact ⟨'E', .inr rfl, hupper⟩
    obtain ⟨mid, rfl⟩ := List.head?_eq_some_iff.mp hhead
    refine (reads_skip _ _).ensures_bind ((h mid).imp ?_)
    rintro _ rest ⟨sign, digits, hsign, rfl⟩
    exact ⟨some ⟨c, hc, sign, hsign, digits⟩, by simp [NumberText.exponentChars]⟩
  · refine (h' cs).imp ?_
    rintro _ rest rfl
    exact ⟨none, rfl⟩

end

end Scan

namespace Numeral

open Scan

variable (negative : Bool) (significand : Nat) (cs : List Char)

theorem ensures_ofParts_end (exponent : Int) :
    Ensures (ofParts negative significand exponent) cs fun _ rest => cs = rest := by
  unfold ofParts
  split
  · exact ensures_pure rfl
  · exact ensures_failHere _

theorem ensures_exponentPart_chars (exponent : Int) :
    Ensures (exponentPart negative significand exponent) cs fun _ rest =>
      ∃ (sign : Option Char) (digits : Digits), (∀ c ∈ sign, c = '+' ∨ c = '-') ∧
        cs = sign.toList ++ (digits.chars ++ rest) := by
  refine ensures_sign_bind (f := fun sign => _) fun next sign mid hsign hmid => ?_
  refine ensures_get_bind fun offset => ensures_digits_bind (fun cs => ?_) ?_
  · refine .last fun next _ => ?_
    split
    · exact ensures_failHere _
    · exact ensures_failAhead _
  · rintro digits rest rfl
    have hread : ∃ (sign : Option Char) (digits : Digits), (∀ c ∈ sign, c = '+' ∨ c = '-') ∧
        cs = sign.toList ++ (digits.chars ++ rest) := ⟨sign, digits, hsign, hmid⟩
    split
    · next hnil => exact absurd hnil digits.ne_nil
    · split
      · refine (ensures_ofParts_end _ _ _ _).imp ?_
        rintro _ _ rfl
        exact hread
      · split
        · exact ensures_pure hread
        · exact ensures_failAt _ _

theorem ensures_scaledPart_chars (exponent : Int) :
    Ensures (scaledPart negative significand exponent) cs fun _ rest =>
      ∃ exponent, cs = NumberText.exponentChars exponent ++ rest :=
  ensures_exponent_bind (fun cs => ensures_exponentPart_chars _ _ cs _)
    fun cs => ensures_ofParts_end _ _ cs _

theorem ensures_fractionPart_chars (leftOver : Nat) :
    Ensures (fractionPart negative significand leftOver) cs fun _ rest =>
      ∃ (digits : Digits) (exponent : Option Exponent),
        cs = digits.chars ++ (NumberText.exponentChars exponent ++ rest) := by
  refine ensures_digits_bind (fun cs => ?_) ?_
  · refine .last fun next _ => ?_
    split
    · exact ensures_failHere _
    · exact ensures_failAhead _
  · rintro digits mid rfl
    split
    · next hnil => exact absurd hnil digits.ne_nil
    · refine (ensures_scaledPart_chars _ _ mid _).imp ?_
      rintro _ rest ⟨exponent, rfl⟩
      exact ⟨digits, exponent, rfl⟩

theorem ensures_afterInteger_chars (leftOver : Nat) :
    Ensures (afterInteger negative significand leftOver) cs fun _ rest =>
      ∃ (fraction : Option Digits) (exponent : Option Exponent),
        cs = NumberText.fractionChars fraction ++ (NumberText.exponentChars exponent ++ rest) := by
  have hscaled : Ensures (scaledPart negative significand leftOver) cs fun _ rest =>
      ∃ (fraction : Option Digits) (exponent : Option Exponent),
        cs = NumberText.fractionChars fraction ++
          (NumberText.exponentChars exponent ++ rest) := by
    refine (ensures_scaledPart_chars _ _ cs _).imp ?_
    rintro _ rest ⟨exponent, rfl⟩
    exact ⟨none, exponent, rfl⟩
  refine (reads_peek cs).ensures_bind ?_
  split
  · next hpoint =>
    obtain ⟨cs, rfl⟩ := List.head?_eq_some_iff.mp hpoint
    refine (reads_skip _ _).ensures_bind ((ensures_fractionPart_chars _ _ cs _).imp ?_)
    rintro _ rest ⟨digits, exponent, rfl⟩
    exact ⟨some digits, exponent, rfl⟩
  · exact hscaled
  · exact hscaled
  · split
    · refine (ensures_ofParts_end _ _ _ _).imp ?_
      rintro _ rest rfl
      exact ⟨none, none, rfl⟩
    · split <;> exact ensures_pure ⟨none, none, rfl⟩

/-- The parts of a number write it, if only a zero begins with a zero. -/
theorem exists_size (whole : Digits) (hwhole : whole.chars.head? = some '0' → whole.chars = ['0'])
    (fraction : Option Digits) (exponent : Option Exponent) (rest : List Char) :
    ∃ n : NumberText, n.negative = negative ∧
      whole.chars ++ (NumberText.fractionChars fraction ++
        (NumberText.exponentChars exponent ++ rest)) = n.size ++ rest :=
  ⟨⟨negative, whole, hwhole, fraction, exponent⟩, rfl, by simp [NumberText.size]⟩

/-- A number that is read is written by its parts. -/
theorem ensures_scan_size :
    Ensures (scan negative) cs fun _ rest =>
      ∃ n : NumberText, n.negative = negative ∧ cs = n.size ++ rest := by
  refine (reads_peek cs).ensures_bind ?_
  split
  · exact ensures_failHere _
  · next hzero =>
    obtain ⟨cs, rfl⟩ := List.head?_eq_some_iff.mp hzero
    refine (reads_skip _ _).ensures_bind ((reads_peek cs).ensures_bind ?_)
    split
    · exact ensures_failAhead _
    · refine (ensures_afterInteger_chars _ _ cs _).imp ?_
      rintro _ rest ⟨fraction, exponent, rfl⟩
      exact exists_size negative ⟨['0'], by simp, by simp⟩ (fun _ => rfl) fraction exponent rest
  · next c hzero hc =>
    refine ensures_digits_bind (fun cs => ensures_failAhead _) ?_
    rintro digits mid rfl
    split
    · next hnil => exact absurd hnil digits.ne_nil
    · refine (ensures_afterInteger_chars _ _ mid _).imp ?_
      rintro _ rest ⟨fraction, exponent, rfl⟩
      have hwhole : digits.chars.head? = some '0' → digits.chars = ['0'] := by
        intro hhead
        rw [List.head?_append_of_ne_nil _ digits.ne_nil, hhead] at hc
        exact absurd (Option.some.inj hc).symm hzero
      exact exists_size negative digits hwhole fraction exponent rest

end Numeral

namespace Scan

theorem ensures_passDigits (cs : List Char) :
    Ensures passDigits cs fun _ rest => ∃ digits : Digits, cs = digits.chars ++ rest := by
  refine ensures_digits_bind (fun cs => ensures_failAhead _) ?_
  rintro digits mid rfl
  split
  · exact ensures_failAhead _
  · exact ensures_pure ⟨digits, rfl⟩

theorem ensures_passExponent (cs : List Char) :
    Ensures passExponent cs fun _ rest =>
      ∃ exponent, cs = NumberText.exponentChars exponent ++ rest := by
  refine ensures_exponent_bind (fun cs => ?_) fun cs => ensures_pure rfl
  refine ensures_sign_bind (f := fun _ => passDigits) fun _ sign mid hsign hmid => ?_
  refine (ensures_passDigits mid).imp ?_
  rintro _ rest ⟨digits, rfl⟩
  exact ⟨sign, digits, hsign, hmid⟩

theorem ensures_passFraction (cs : List Char) :
    Ensures (do
      if (← peek) = some '.' then
        skip
        passDigits
      passExponent) cs fun _ rest => ∃ (fraction : Option Digits) (exponent : Option Exponent),
        cs = NumberText.fractionChars fraction ++
          (NumberText.exponentChars exponent ++ rest) := by
  refine (reads_peek cs).ensures_bind ?_
  split
  · next hpoint =>
    obtain ⟨cs, rfl⟩ := List.head?_eq_some_iff.mp hpoint
    refine (reads_skip _ _).ensures_bind ((ensures_passDigits cs).bind ?_)
    rintro _ mid ⟨digits, rfl⟩
    refine (ensures_passExponent mid).imp ?_
    rintro _ rest ⟨exponent, rfl⟩
    exact ⟨some digits, exponent, rfl⟩
  · refine (ensures_passExponent cs).imp ?_
    rintro _ rest ⟨exponent, rfl⟩
    exact ⟨none, exponent, rfl⟩

theorem ensures_passNumber (negative : Bool) (cs : List Char) :
    Ensures passNumber cs fun _ rest =>
      ∃ n : NumberText, n.negative = negative ∧ cs = n.size ++ rest := by
  refine (reads_peek cs).ensures_bind ?_
  split
  · next hzero =>
    obtain ⟨cs, rfl⟩ := List.head?_eq_some_iff.mp hzero
    refine (reads_skip _ _).ensures_bind ((reads_peek cs).ensures_bind ?_)
    split
    · exact Fails.bind (ensures_failAhead _)
    · refine (ensures_passFraction cs).imp ?_
      rintro _ rest ⟨fraction, exponent, rfl⟩
      exact Numeral.exists_size negative ⟨['0'], by simp, by simp⟩ (fun _ => rfl) fraction exponent
        rest
  · next hzero =>
    refine (ensures_passDigits cs).bind ?_
    rintro _ mid ⟨digits, rfl⟩
    refine (ensures_passFraction mid).imp ?_
    rintro _ rest ⟨fraction, exponent, rfl⟩
    have hwhole : digits.chars.head? = some '0' → digits.chars = ['0'] := by
      intro hhead
      rw [List.head?_append_of_ne_nil _ digits.ne_nil] at hzero
      exact absurd hhead hzero
    exact Numeral.exists_size negative digits hwhole fraction exponent rest

/-! ## Values that are passed over -/

/-- The scanner reads a value behind a gap, if it reads anything. -/
def Recognizes {α : Type} (m : Scan α) : Prop :=
  ∀ cs, Ensures m cs fun _ rest =>
    ∃ gap n front, IsGap gap ∧ Written n front ∧ cs = gap ++ (front ++ rest)

/-- The text goes on up to the ends of the open brackets, behind an element or in front of the first
one. -/
def Closes : Bool → List Bracket → List Char → Prop
  | _, [], cs => cs = []
  | ended, .square :: outer, cs => ∃ items front back,
    WrittenItems (!ended) items front ∧ Closes true outer back ∧ cs = front ++ back
  | ended, .curly :: outer, cs => ∃ members front back,
    WrittenMembers (!ended) members front ∧ Closes true outer back ∧ cs = front ++ back

theorem isGap_append {gap gap' : List Char} (h : IsGap gap) (h' : IsGap gap') :
    IsGap (gap ++ gap') :=
  List.forall_mem_append.mpr ⟨h, h'⟩

theorem leads_append {first : Bool} {lead gap : List Char} (hlead : Leads first lead)
    (hgap : IsGap gap) : Leads first (lead ++ gap) := by
  cases hlead with
  | first h => exact .first (isGap_append h hgap)
  | next h h' =>
    rw [List.append_assoc, List.cons_append]
    exact .next h (isGap_append h' hgap)

/-- A key with its colon is passed over where there have to be keys. -/
theorem ensures_passKey_curly (cs : List Char) :
    Ensures (passKey .curly) cs fun _ rest => ∃ gap key gap',
      IsGap gap ∧ IsGap gap' ∧ cs = gap ++ (Glyph.quote key ++ (gap' ++ ':' :: rest)) := by
  obtain ⟨gap, mid, rfl, hgap, hpeek⟩ := exists_peekToken cs
  refine hpeek.ensures_bind ?_
  split
  · next hquote =>
    obtain ⟨mid, rfl⟩ := List.head?_eq_some_iff.mp hquote
    refine (reads_skip _ _).ensures_bind ((ensures_passText mid).bind ?_)
    rintro _ mid' ⟨key, hkey⟩
    refine (ensures_colon mid').imp ?_
    rintro _ rest ⟨gap', hgap', rfl⟩
    exact ⟨gap, key, gap', hgap, hgap', by rw [hkey]⟩
  · exact ensures_failAhead _
  · exact ensures_failAhead _

/-- The text is a value, or the bracket with which one starts and which is then open. -/
inductive Enters (stack : List Bracket) : List Char → Bool × List Bracket → Prop
  | value {n : Node} {cs : List Char} (h : Written n cs) : Enters stack cs (true, stack)
  | square : Enters stack ['['] (false, .square :: stack)
  | curly : Enters stack ['\x7b'] (false, .curly :: stack)

theorem ensures_enter (stack : List Bracket) (cs : List Char) :
    Ensures (enter stack) cs fun result rest => ∃ gap front,
      IsGap gap ∧ Enters stack front result ∧ cs = gap ++ (front ++ rest) := by
  obtain ⟨gap, mid, rfl, hgap, hpeek⟩ := exists_peekToken cs
  refine hpeek.ensures_bind ?_
  have hvalue : ∀ {n front rest}, Written n front → mid = front ++ rest → ∃ gap' front',
      IsGap gap' ∧ Enters stack front' (true, stack) ∧ gap ++ mid = gap' ++ (front' ++ rest) :=
    fun hn hmid => ⟨gap, _, hgap, .value hn, by rw [hmid]⟩
  have hword : ∀ {n : Node} {c : Char} {letters : List Char}, Written n (c :: letters) →
      mid.head? = some c → Ensures (do
        skip
        ident letters
        return (true, stack)) mid fun result rest => ∃ gap' front',
          IsGap gap' ∧ Enters stack front' result ∧ gap ++ mid = gap' ++ (front' ++ rest) := by
    intro n c letters hn hhead
    obtain ⟨mid, rfl⟩ := List.head?_eq_some_iff.mp hhead
    refine (reads_skip _ _).ensures_bind ((ensures_ident _ mid).bind ?_)
    rintro _ rest rfl
    exact ensures_pure (hvalue hn rfl)
  split
  · exact ensures_failAhead _
  · next hhead => exact hword .null hhead
  · next hhead => exact hword (.boolean true) hhead
  · next hhead => exact hword (.boolean false) hhead
  · next hhead =>
    obtain ⟨mid, rfl⟩ := List.head?_eq_some_iff.mp hhead
    refine (reads_skip _ _).ensures_bind ((ensures_passText mid).bind ?_)
    rintro _ rest ⟨glyphs, hglyphs⟩
    exact ensures_pure (hvalue (.text glyphs) hglyphs)
  · next hhead =>
    obtain ⟨mid, rfl⟩ := List.head?_eq_some_iff.mp hhead
    refine (reads_skip _ _).ensures_bind ((ensures_passNumber true mid).bind ?_)
    rintro _ rest ⟨n, hsign, rfl⟩
    refine ensures_pure (hvalue (.number n) ?_)
    rw [NumberText.chars, if_pos hsign, List.cons_append]
  · next hhead =>
    obtain ⟨mid, rfl⟩ := List.head?_eq_some_iff.mp hhead
    exact (reads_skip _ _).ensures_bind (ensures_pure ⟨gap, _, hgap, .square, rfl⟩)
  · next hhead =>
    obtain ⟨mid, rfl⟩ := List.head?_eq_some_iff.mp hhead
    exact (reads_skip _ _).ensures_bind (ensures_pure ⟨gap, _, hgap, .curly, rfl⟩)
  · split
    · refine (ensures_passNumber false mid).bind ?_
      rintro _ rest ⟨n, hsign, rfl⟩
      refine ensures_pure (hvalue (.number n) ?_)
      rw [NumberText.chars, hsign]
      rfl
    · exact ensures_failAhead _

/-- Behind its first bracket, a value goes on up to the bracket that closes it. -/
theorem Enters.exists_written {stack : List Bracket} {front back : List Char}
    {result : Bool × List Bracket} (h : Enters stack front result)
    (hback : Closes result.1 result.2 back) : ∃ n front' back',
      Written n front' ∧ Closes true stack back' ∧ front ++ back = front' ++ back' := by
  cases h with
  | value h => exact ⟨_, front, back, h, hback, rfl⟩
  | square =>
    obtain ⟨items, inner, outer, hitems, houter, rfl⟩ := hback
    exact ⟨.list items, '[' :: inner, outer, .list hitems, houter, rfl⟩
  | curly =>
    obtain ⟨members, inner, outer, hmembers, houter, rfl⟩ := hback
    exact ⟨.object members, '\x7b' :: inner, outer, .object hmembers, houter, rfl⟩

section
variable {left : List Char}
  (ih : ∀ ended stack cs, Ensures (leave left ended stack) cs fun _ rest =>
    ∃ front, Closes ended stack front ∧ cs = front ++ rest)
include ih

theorem ensures_enter_leave (stack : List Bracket) (cs : List Char) :
    Ensures (do
      let (ended, stack) ← enter stack
      leave left ended stack) cs fun _ rest => ∃ gap n front back, IsGap gap ∧ Written n front ∧
        Closes true stack back ∧ cs = gap ++ (front ++ (back ++ rest)) := by
  refine (ensures_enter stack cs).bind ?_
  rintro ⟨ended, stack'⟩ mid ⟨gap, front, hgap, henter, rfl⟩
  refine (ih ended stack' mid).imp ?_
  rintro _ rest ⟨back, hback, rfl⟩
  obtain ⟨n, front', back', hn, hback', heq⟩ := henter.exists_written hback
  refine ⟨gap, n, front', back', hgap, hn, hback', ?_⟩
  rw [← List.append_assoc front, ← List.append_assoc front', heq]

/-- An element with its key goes on with the elements behind it. -/
theorem ensures_element (b : Bracket) (outer : List Bracket) (cs : List Char) :
    Ensures (do
      passKey b
      let (ended, stack) ← enter (b :: outer)
      leave left ended stack) cs fun _ rest => ∃ front,
        (∀ {first lead}, Leads first lead → Closes (!first) (b :: outer) (lead ++ front)) ∧
          cs = front ++ rest := by
  cases b with
  | square =>
    refine (Reads.pure () cs).ensures_bind ((ensures_enter_leave ih _ cs).imp ?_)
    rintro _ rest ⟨gap, n, front, back, hgap, hn, hback, rfl⟩
    refine ⟨gap ++ (front ++ back), fun {first lead} hlead => ?_, by simp⟩
    obtain ⟨items, inner, back, hitems, hback, rfl⟩ := hback
    refine ⟨n :: items, lead ++ gap ++ (front ++ inner), back, ?_, hback, by simp⟩
    rw [Bool.not_not]
    exact .item (leads_append hlead hgap) hn hitems
  | curly =>
    refine (ensures_passKey_curly cs).bind ?_
    rintro _ mid ⟨gap, key, gap', hgap, hgap', rfl⟩
    refine (ensures_enter_leave ih _ mid).imp ?_
    rintro _ rest ⟨gap'', n, front, back, hgap'', hn, hback, rfl⟩
    refine ⟨gap ++ (Glyph.quote key ++ (gap' ++ ':' :: (gap'' ++ (front ++ back)))),
      fun {first lead} hlead => ?_, by simp⟩
    obtain ⟨members, inner, back, hmembers, hback, rfl⟩ := hback
    refine ⟨(key, n) :: members,
      lead ++ gap ++ (Glyph.quote key ++ (gap' ++ ':' :: (gap'' ++ (front ++ inner)))), back,
      ?_, hback, by simp⟩
    rw [Bool.not_not]
    exact .member (leads_append hlead hgap) hgap' hgap'' hn hmembers

end

theorem ensures_leave (fuel : List Char) (ended : Bool) (stack : List Bracket) (cs : List Char) :
    Ensures (leave fuel ended stack) cs fun _ rest =>
      ∃ front, Closes ended stack front ∧ cs = front ++ rest := by
  induction fuel generalizing ended stack cs with
  | nil =>
    cases stack with
    | nil => exact ensures_pure ⟨[], rfl, rfl⟩
    | cons b outer => exact ensures_failHere _
  | cons _ left ih =>
    cases stack with
    | nil => exact ensures_pure ⟨[], rfl, rfl⟩
    | cons b outer =>
      obtain ⟨gap, mid, rfl, hgap, hpeek⟩ := exists_peekToken cs
      refine hpeek.ensures_bind ?_
      split
      · exact ensures_failAhead _
      · next c hc =>
        obtain ⟨mid, rfl⟩ := List.head?_eq_some_iff.mp hc
        split
        · next hnext =>
          obtain ⟨rfl, hcomma⟩ := Bool.and_eq_true_iff.mp hnext
          obtain rfl := of_decide_eq_true hcomma
          refine (reads_skip _ _).ensures_bind ((ensures_element ih b outer mid).imp ?_)
          rintro _ rest ⟨front, hfront, rfl⟩
          exact ⟨gap ++ ',' :: [] ++ front, hfront (.next hgap isGap_nil), by simp⟩
        · split
          · next hclose =>
            obtain rfl := hclose
            refine (reads_skip _ _).ensures_bind ((ih true outer mid).imp ?_)
            rintro _ rest ⟨back, hback, rfl⟩
            refine ⟨gap ++ [b.closer] ++ back, ?_, by simp⟩
            cases b with
            | square => exact ⟨[], _, back, .close _ hgap, hback, rfl⟩
            | curly => exact ⟨[], _, back, .close _ hgap, hback, rfl⟩
          · split
            · exact ensures_failAhead _
            · next hended =>
              refine (ensures_element ih b outer _).imp ?_
              rintro _ rest ⟨front, hfront, heq⟩
              rw [eq_false_of_ne_true hended]
              exact ⟨gap ++ front, hfront (.first hgap), by rw [heq, List.append_assoc]⟩

/-- What is passed over is a value. -/
theorem recognizes_passValue : Recognizes passValue := by
  intro cs
  refine (ensures_enter [] cs).bind ?_
  rintro ⟨ended, stack⟩ mid ⟨gap, front, hgap, henter, rfl⟩
  refine Ensures.lookahead (f := fun left => leave left ended stack) ?_
  refine (ensures_leave mid ended stack mid).imp ?_
  rintro _ rest ⟨back, hback, rfl⟩
  obtain ⟨n, front', back', hn, rfl, heq⟩ := henter.exists_written hback
  refine ⟨gap, n, front', hgap, hn, ?_⟩
  rw [← List.append_assoc front, heq, List.append_nil]

end Scan

end InterlockLadder.Json
