import InterlockLadder.Json.Skip
import InterlockLadder.Proofs.Grammar

/-! Passing over values. Whatever value a text writes, the scanner that passes over one value reads
exactly that value (`Scan.reads_passValue`): numbers of any size, texts with any escapes, and
brackets nested to any depth. -/

namespace InterlockLadder.Json

namespace Scan

/-! ## Texts -/

theorem reads_escape_letter {α : Type} (short : Char → α) (numbered : Scan α) {c escaped : Char}
    (h : shortEscape? c = some escaped) (rest : List Char) :
    Reads (escape short numbered) (c :: rest) (short escaped) rest := by
  refine (reads_peek _).bind ?_
  simp only [List.head?_cons, h]
  exact (reads_skip _ _).bind (.pure _ _)

theorem reads_escape_unit {α : Type} (short : Char → α) {numbered : Scan α} {cs rest : List Char}
    {a : α} (h : Reads numbered cs a rest) : Reads (escape short numbered) ('u' :: cs) a rest :=
  (reads_peek _).bind ((reads_skip _ _).bind h)

theorem reads_passChar (g : Glyph) (rest : List Char) :
    Reads passChar (g.chars ++ rest) true rest := by
  cases g with
  | plain c h =>
    obtain ⟨hquote, hbackslash, hcontrol⟩ := h
    refine (reads_peek _).bind ?_
    simp only [Glyph.chars, List.singleton_append, List.head?_cons]
    rw [if_neg (Nat.not_lt.mpr hcontrol)]
    exact (reads_skip _ _).bind (.pure _ _)
  | letter c escaped h =>
    exact (reads_peek _).bind ((reads_skip _ _).bind (reads_escape_letter _ _ h rest))
  | unit n digits h =>
    exact (reads_peek _).bind ((reads_skip _ _).bind
      (reads_escape_unit _ ((reads_hexUnit h rest).map _)))

theorem reads_passTextWithin (glyphs : List Glyph) (rest : List Char) {fuel : List Char}
    (hfuel : glyphs.length < fuel.length) :
    Reads (passTextWithin fuel) (glyphs.flatMap Glyph.chars ++ '"' :: rest) () rest := by
  induction glyphs generalizing fuel with
  | nil =>
    obtain _ | ⟨_, left⟩ := fuel
    · simp at hfuel
    · have hquote : Reads passChar ('"' :: rest) false rest := fun offset => ⟨_, rfl⟩
      exact hquote.bind (.pure _ _)
  | cons g glyphs ih =>
    obtain _ | ⟨_, left⟩ := fuel
    · simp at hfuel
    · rw [List.flatMap_cons, List.append_assoc]
      exact (reads_passChar g _).bind (ih (by simpa using hfuel))

theorem reads_passText (glyphs : List Glyph) (rest : List Char) :
    Reads passText (glyphs.flatMap Glyph.chars ++ ['"'] ++ rest) () rest := by
  rw [List.append_assoc]
  apply Reads.lookahead
  exact reads_passTextWithin glyphs rest (Glyph.length_lt glyphs rest)

/-! ## Numbers -/

theorem reads_passDigits (digits : Digits) {rest : List Char}
    (hrest : ∀ c ∈ rest.head?, c.isDigit = false) :
    Reads passDigits (digits.chars ++ rest) () rest := by
  refine (Numeral.reads_digits digits.isDigit hrest).bind ?_
  rw [if_neg (by simpa using digits.ne_nil)]
  exact .pure _ _

/-- The sign of an exponent is read if there is one, since digits are no signs. -/
theorem reads_sign {α : Type} {m : Scan α} (e : Exponent) {rest rest' : List Char} {a : α}
    (h : Reads m (e.digits.chars ++ rest) a rest') :
    Reads (do
      let sign ← peek
      if sign = some '+' || sign = some '-' then skip
      m) (e.sign.toList ++ (e.digits.chars ++ rest)) a rest' := by
  refine (reads_peek _).bind ?_
  cases hsign : e.sign with
  | none =>
    obtain ⟨d, ds, hds, hdigit, -⟩ := e.digits.exists_cons
    have hnone : ¬((e.digits.chars ++ rest).head? = some '+' ∨
        (e.digits.chars ++ rest).head? = some '-') := by
      rw [hds]
      rintro (hd | hd) <;>
      · obtain rfl := Option.some.inj hd
        cases hdigit
    rw [Option.toList_none, List.nil_append, if_neg (by simpa using hnone)]
    exact h
  | some c =>
    have hsome : c = '+' ∨ c = '-' := e.sign_eq c hsign
    rw [Option.toList_some, List.singleton_append, if_pos (by simpa using hsome)]
    exact (reads_skip _ _).bind h

theorem reads_passExponent (exponent : Option Exponent) {rest : List Char} (h : Delimits rest) :
    Reads passExponent (NumberText.exponentChars exponent ++ rest) () rest := by
  refine (reads_peek _).bind ?_
  cases exponent with
  | none =>
    have hnone : ¬(rest.head? = some 'e' ∨ rest.head? = some 'E') := by
      rintro (hc | hc)
      · exact (h _ hc).2.2.1 rfl
      · exact (h _ hc).2.2.2 rfl
    rw [NumberText.exponentChars, List.nil_append, if_neg (by simpa using hnone)]
    exact .pure _ _
  | some e =>
    have hsome : e.letter = 'e' ∨ e.letter = 'E' := e.letter_eq
    rw [NumberText.exponentChars, List.cons_append, List.cons_append, List.append_assoc,
      List.head?_cons, if_pos (by simpa using hsome)]
    exact (reads_skip _ _).bind (reads_sign e (reads_passDigits e.digits h.isDigit_eq_false))

/-- The digits of the integer part, with what comes before a fraction. -/
theorem reads_whole {α : Type} {m : Scan α} {n : NumberText} {rest rest' : List Char} {a : α}
    (hrest : ∀ c ∈ rest.head?, c.isDigit = false) (h : Reads m rest a rest') :
    Reads (do
      if (← peek) = some '0' then
        skip
        if (← peek).any Char.isDigit then failAhead .invalidNumber
      else passDigits
      m) (n.whole.chars ++ rest) a rest' := by
  refine (reads_peek _).bind ?_
  by_cases hzero : n.whole.chars.head? = some '0'
  · have hnext := any_isDigit_eq_false hrest
    rw [n.whole_eq hzero, List.singleton_append, List.head?_cons, if_pos rfl]
    refine (reads_skip _ _).bind ((reads_peek rest).bind ?_)
    rw [hnext]
    exact h
  · rw [List.head?_append_of_ne_nil _ n.whole.ne_nil, if_neg hzero]
    exact (reads_passDigits n.whole hrest).bind h

theorem reads_passNumber (n : NumberText) {rest : List Char} (h : Delimits rest) :
    Reads passNumber (n.size ++ rest) () rest := by
  have hexponent := reads_passExponent n.exponent h
  have hwhole := NumberText.head?_fractionChars n.fraction n.exponent h
  rw [NumberText.size, List.append_assoc, List.append_assoc]
  refine reads_whole hwhole ((reads_peek _).bind ?_)
  cases n.fraction with
  | none =>
    have hpoint : (NumberText.exponentChars n.exponent ++ rest).head? ≠ some '.' := fun hc =>
      (NumberText.head?_exponentChars n.exponent h _ hc).2 rfl
    rw [NumberText.fractionChars, List.nil_append, if_neg hpoint]
    exact hexponent
  | some digits =>
    rw [NumberText.fractionChars, List.cons_append, List.head?_cons, if_pos rfl]
    have hdigits := reads_passDigits digits
      fun c hc => (NumberText.head?_exponentChars n.exponent h c hc).1
    exact (reads_skip _ _).bind (hdigits.bind hexponent)

end Scan

/-! ## Brackets -/

mutual

/-- How often the scanner looks for what comes next within the brackets of a value. -/
def Node.rounds : Node → Nat
  | .list items => itemRounds items
  | .object members => memberRounds members
  | _ => 0

def itemRounds : List Node → Nat
  | [] => 1
  | item :: items => item.rounds + itemRounds items + 1

def memberRounds : List (List Glyph × Node) → Nat
  | [] => 1
  | (_, value) :: members => value.rounds + memberRounds members + 1

end

mutual

/-- Each round takes a character. -/
theorem rounds_lt_length {n : Node} {cs : List Char} (h : Written n cs) :
    n.rounds < cs.length := by
  cases n with
  | list items =>
    cases h with
    | list h =>
      have hle := itemRounds_le_length h
      rw [Node.rounds, List.length_cons]
      omega
  | object members =>
    cases h with
    | object h =>
      have hle := memberRounds_le_length h
      rw [Node.rounds, List.length_cons]
      omega
  | _ =>
    obtain ⟨c, cs, rfl, -⟩ := h.exists_cons
    exact Nat.zero_lt_succ _

theorem itemRounds_le_length {first : Bool} {items : List Node} {cs : List Char}
    (h : WrittenItems first items cs) : itemRounds items ≤ cs.length := by
  cases items with
  | nil =>
    cases h with
    | close hgap => simp [itemRounds]
  | cons item items =>
    cases h with
    | item hlead h hs =>
      have hlt := rounds_lt_length h
      have hle := itemRounds_le_length hs
      simp only [itemRounds, List.length_append]
      omega

theorem memberRounds_le_length {first : Bool} {members : List (List Glyph × Node)}
    {cs : List Char} (h : WrittenMembers first members cs) :
    memberRounds members ≤ cs.length := by
  obtain _ | ⟨⟨key, value⟩, members⟩ := members
  · cases h with
    | close hgap => simp [memberRounds]
  · cases h with
    | member hlead hgap hgap' h hs =>
      have hlt := rounds_lt_length h
      have hle := memberRounds_le_length hs
      simp only [memberRounds, List.length_append, List.length_cons]
      omega

end

namespace Scan

/-- A value without brackets is passed over at once. -/
theorem reads_enter_scalar {n : Node} {cs : List Char} (h : Written n cs) (hn : n.rounds = 0)
    {gap rest : List Char} (hgap : IsGap gap) (hrest : Delimits rest) (stack : List Bracket) :
    Reads (enter stack) (gap ++ (cs ++ rest)) (true, stack) rest := by
  cases h with
  | null =>
    refine (reads_peekToken hgap rfl _).bind ((reads_skip _ _).bind ?_)
    exact (reads_ident ['u', 'l', 'l'] rest).bind (.pure _ _)
  | boolean b =>
    cases b <;>
    · refine (reads_peekToken hgap rfl _).bind ((reads_skip _ _).bind ?_)
      exact (reads_ident _ rest).bind (.pure _ _)
  | text glyphs =>
    refine (reads_peekToken hgap rfl _).bind ((reads_skip _ _).bind ?_)
    exact (reads_passText glyphs rest).bind (.pure _ _)
  | number n =>
    have hsize := reads_passNumber n hrest
    cases hnegative : n.negative with
    | true =>
      rw [NumberText.chars, if_pos hnegative]
      refine (reads_peekToken hgap rfl _).bind ((reads_skip _ _).bind ?_)
      exact hsize.bind (.pure _ _)
    | false =>
      obtain ⟨d, ds, hds, hdigit, -⟩ := n.whole.exists_cons
      have hsize : n.size ++ rest = d :: (ds ++ (NumberText.fractionChars n.fraction ++
          NumberText.exponentChars n.exponent) ++ rest) := by
        simp [NumberText.size, hds]
      have hpass := reads_passNumber n hrest
      rw [NumberText.chars, hnegative, if_neg Bool.false_ne_true]
      rw [hsize] at hpass ⊢
      refine (reads_peekToken hgap (isGap_of_isDigit hdigit) _).bind ?_
      have hn := ne_of_isDigit hdigit 'n' rfl
      have ht := ne_of_isDigit hdigit 't' rfl
      have hf := ne_of_isDigit hdigit 'f' rfl
      have hquote := ne_of_isDigit hdigit '"' rfl
      have hminus := ne_of_isDigit hdigit '-' rfl
      have hsquare := ne_of_isDigit hdigit '[' rfl
      have hcurly := ne_of_isDigit hdigit '\x7b' rfl
      simp only [hdigit, if_true]
      exact hpass.bind (.pure _ _)
  | @list items _ h => cases items <;> simp [Node.rounds, itemRounds] at hn
  | @object members _ h =>
    obtain _ | ⟨⟨key, value⟩, members⟩ := members <;> simp [Node.rounds, memberRounds] at hn

theorem leave_nil (fuel : List Char) (ended : Bool) : leave fuel ended [] = pure () := by
  cases fuel <;> rfl

section
variable {b : Bracket} {outer : List Bracket} {left rest final : List Char}

/-- Behind what leads to it, the scanner is in front of an element. -/
theorem reads_leave_lead {first : Bool} {lead : List Char} (hlead : Leads first lead) {c : Char}
    {cs : List Char} (hgap : isGap c = false) (hclose : c ≠ b.closer)
    (hread : ∀ gap, IsGap gap → Reads (do
      passKey b
      let (ended, stack) ← enter (b :: outer)
      leave left ended stack) (gap ++ c :: cs) () final) (round : Char) :
    Reads (leave (round :: left) (!first) (b :: outer)) (lead ++ c :: cs) () final := by
  cases hlead with
  | first hlead =>
    refine (reads_peekToken hlead hgap cs).bind ?_
    simp only [Bool.not_true, Bool.false_and, Bool.false_eq_true, if_false, hclose]
    exact hread [] isGap_nil
  | next hlead hlead' =>
    rw [List.append_assoc, List.cons_append]
    exact (reads_peekToken hlead rfl _).bind ((reads_skip _ _).bind (hread _ hlead'))

theorem reads_leave_close {gap : List Char} (hgap : IsGap gap) (ended : Bool)
    (hread : Reads (leave left true outer) rest () final) (round : Char) :
    Reads (leave (round :: left) ended (b :: outer)) (gap ++ [b.closer] ++ rest) ()
      final := by
  rw [List.append_assoc, List.singleton_append]
  cases b <;>
  · refine (reads_peekToken hgap rfl _).bind ?_
    cases ended <;> exact (reads_skip _ _).bind hread

theorem reads_passKey (key : List Glyph) {gap gap' : List Char} (hgap : IsGap gap)
    (hgap' : IsGap gap') (cs : List Char) :
    Reads (passKey .curly) (gap ++ (Glyph.quote key ++ (gap' ++ ':' :: cs))) () cs := by
  refine (reads_peekToken hgap rfl _).bind ((reads_skip _ _).bind ?_)
  exact (reads_passText key _).bind (reads_colon hgap' cs)

end

/-! The brackets of a value are left as soon as it ends, and the scanner goes on with those around
it. It needs a round for each element and each closing bracket. -/

mutual

theorem reads_enter {n : Node} {cs : List Char} (h : Written n cs) {gap rest : List Char}
    (hgap : IsGap gap) (hrest : Delimits rest) {stack : List Bracket} {k : Nat}
    {final : List Char}
    (hread : ∀ left : List Char, k ≤ left.length → Reads (leave left true stack) rest () final)
    {fuel : List Char} (hfuel : n.rounds + k ≤ fuel.length) :
    Reads (do
      let (ended, stack) ← enter stack
      leave fuel ended stack) (gap ++ (cs ++ rest)) () final := by
  cases n with
  | list items =>
    cases h with
    | list h =>
      refine Reads.bind ((reads_peekToken hgap rfl _).bind ((reads_skip _ _).bind (.pure _ _))) ?_
      exact reads_leave_items h hread hfuel
  | object members =>
    cases h with
    | object h =>
      refine Reads.bind ((reads_peekToken hgap rfl _).bind ((reads_skip _ _).bind (.pure _ _))) ?_
      exact reads_leave_members h hread hfuel
  | _ =>
    refine (reads_enter_scalar h rfl hgap hrest stack).bind (hread fuel ?_)
    exact Nat.le_trans (Nat.le_add_left _ _) hfuel

theorem reads_leave_items {first : Bool} {items : List Node} {cs : List Char}
    (h : WrittenItems first items cs) {rest : List Char} {stack : List Bracket} {k : Nat}
    {final : List Char}
    (hread : ∀ left : List Char, k ≤ left.length → Reads (leave left true stack) rest () final)
    {fuel : List Char} (hfuel : itemRounds items + k ≤ fuel.length) :
    Reads (leave fuel (!first) (.square :: stack)) (cs ++ rest) () final := by
  obtain _ | ⟨round, left⟩ := fuel
  · cases items <;> simp [itemRounds] at hfuel
  cases items with
  | nil =>
    cases h with
    | close _ hgap =>
      refine reads_leave_close (b := .square) hgap _ (hread left ?_) round
      simp only [itemRounds, List.length_cons] at hfuel
      omega
  | cons item items =>
    cases h with
    | item hlead h hs =>
      obtain ⟨c, cs, rfl, hbegins⟩ := h.exists_cons
      simp only [itemRounds, List.length_cons] at hfuel
      rw [List.append_assoc, List.append_assoc, List.cons_append]
      refine reads_leave_lead (b := .square) hlead hbegins.isToken.1 hbegins.isToken.2.1
        (fun gap hgap => .bind (.pure () _) ?_) round
      -- Behind the item, the scanner goes on with the items that follow.
      refine reads_enter h hgap (hs.delimits rest) (k := itemRounds items + k)
        (fun left hleft => reads_leave_items hs hread hleft) ?_
      omega

theorem reads_leave_members {first : Bool} {members : List (List Glyph × Node)} {cs : List Char}
    (h : WrittenMembers first members cs) {rest : List Char} {stack : List Bracket} {k : Nat}
    {final : List Char}
    (hread : ∀ left : List Char, k ≤ left.length → Reads (leave left true stack) rest () final)
    {fuel : List Char} (hfuel : memberRounds members + k ≤ fuel.length) :
    Reads (leave fuel (!first) (.curly :: stack)) (cs ++ rest) () final := by
  obtain _ | ⟨round, left⟩ := fuel
  · obtain _ | ⟨⟨key, value⟩, members⟩ := members <;> simp [memberRounds] at hfuel
  obtain _ | ⟨⟨key, value⟩, members⟩ := members
  · cases h with
    | close _ hgap =>
      refine reads_leave_close (b := .curly) hgap _ (hread left ?_) round
      simp only [memberRounds, List.length_cons] at hfuel
      omega
  · cases h with
    | member hlead hgap hgap' h hs =>
      simp only [memberRounds, List.length_cons] at hfuel
      simp only [List.append_assoc, List.cons_append]
      refine reads_leave_lead (b := .curly) hlead rfl (by decide)
        (fun gap' hgap'' => .bind (reads_passKey key hgap'' hgap _) ?_) round
      refine reads_enter h hgap' (hs.delimits rest) (k := memberRounds members + k)
        (fun left hleft => reads_leave_members hs hread hleft) ?_
      omega

end

/-- **Passing over a value reads exactly the value**, whatever it is. -/
theorem reads_passValue {n : Node} {cs : List Char} (h : Written n cs) {gap rest : List Char}
    (hgap : IsGap gap) (hrest : Delimits rest) :
    Reads passValue (gap ++ (cs ++ rest)) () rest := by
  have hdone : ∀ left : List Char, 0 ≤ left.length → Reads (leave left true []) rest () rest := by
    intro left _
    rw [leave_nil]
    exact .pure _ _
  cases n with
  | list items =>
    cases h with
    | @list _ cs h =>
      have hfuel : itemRounds items + 0 ≤ (cs ++ rest).length := by
        have hle := itemRounds_le_length h
        rw [List.length_append]
        omega
      refine Reads.bind ((reads_peekToken hgap rfl _).bind ((reads_skip _ _).bind (.pure _ _))) ?_
      refine .lookahead (f := fun fuel => leave fuel false [.square]) ?_
      exact reads_leave_items h hdone hfuel
  | object members =>
    cases h with
    | @object _ cs h =>
      have hfuel : memberRounds members + 0 ≤ (cs ++ rest).length := by
        have hle := memberRounds_le_length h
        rw [List.length_append]
        omega
      refine Reads.bind ((reads_peekToken hgap rfl _).bind ((reads_skip _ _).bind (.pure _ _))) ?_
      refine .lookahead (f := fun fuel => leave fuel false [.curly]) ?_
      exact reads_leave_members h hdone hfuel
  | _ =>
    refine (reads_enter_scalar h rfl hgap hrest []).bind ?_
    exact .lookahead (f := fun fuel => leave fuel true []) (hdone _ (Nat.zero_le _))

end Scan

end InterlockLadder.Json
