import InterlockLadder.Proofs.Interpretation
import InterlockLadder.Proofs.Recognition

/-! Which texts readers accept. By whatever schema a reader goes, it reads a whole value or fails
(`Schema.recognizes`), so only texts that write a value are loaded
(`Schema.exists_writtenDocument`). -/

namespace InterlockLadder

open Json Reading
open Json.Scan (Ensures Fails Recognizes)

section
variable {α : Type} {q : α → List Char → Prop} {cs : List Char}

theorem ensures_mismatch (expected : Expected) : Ensures (mismatch expected) cs q :=
  (fails_mismatch expected cs).imp fun _ _ => False.elim

/-- The next token stands behind a gap, and there is one. -/
theorem ensures_token_bind {f : Char → Scan α}
    (h : ∀ (gap : List Char) (c : Char) (mid : List Char), IsGap gap → cs = gap ++ c :: mid →
      Ensures (f c) (c :: mid) q) : Ensures (token >>= f) cs q := by
  obtain ⟨gap, mid, rfl, hgap, hpeek⟩ := Scan.exists_peekToken cs
  refine Ensures.bind (p := fun c rest => mid = rest ∧ mid.head? = some c) ?_ ?_
  · refine hpeek.ensures_bind ?_
    split
    · next hc => exact Scan.ensures_pure ⟨rfl, hc⟩
    · exact Scan.ensures_failAhead _
  · rintro c rest ⟨rfl, hc⟩
    obtain ⟨mid, rfl⟩ := List.head?_eq_some_iff.mp hc
    exact h gap c mid hgap rfl

end

/-! ## Single values -/

theorem ensures_ofNumeral (x : Numeral) (cs : List Char) :
    Ensures (ofNumeral x) cs fun _ rest => cs = rest := by
  cases x with
  | real x => exact Scan.ensures_failHere _
  | integer n =>
    rw [ofNumeral]
    split
    · exact Scan.ensures_pure rfl
    · exact Scan.ensures_failHere _

theorem recognizes_number : Recognizes number := by
  intro cs
  refine ensures_token_bind fun gap c mid hgap hcs => ?_
  have hnumber : ∀ (negative : Bool) (size : List Char), Ensures
      (do ofNumeral (← Numeral.scan negative)) size fun _ rest =>
        ∃ n : NumberText, n.negative = negative ∧ size = n.size ++ rest := by
    intro negative size
    refine (Numeral.ensures_scan_size negative size).bind ?_
    rintro x _ ⟨n, hsign, rfl⟩
    refine (ensures_ofNumeral x _).imp ?_
    rintro _ _ rfl
    exact ⟨n, hsign, rfl⟩
  split
  · next hminus =>
    obtain rfl := hminus
    refine (Scan.reads_skip _ _).ensures_bind ((hnumber true mid).imp ?_)
    rintro _ rest ⟨n, hsign, rfl⟩
    refine ⟨gap, _, _, hgap, .number n, ?_⟩
    rw [hcs, NumberText.chars, if_pos hsign, List.cons_append]
  · split
    · refine (hnumber false _).imp ?_
      rintro _ rest ⟨n, hsign, hsize⟩
      refine ⟨gap, _, _, hgap, .number n, ?_⟩
      rw [hcs, hsize, NumberText.chars, hsign]
      rfl
    · exact ensures_mismatch _

theorem recognizes_text : Recognizes text := by
  intro cs
  refine ensures_token_bind fun gap c mid hgap hcs => ?_
  split
  · next hquote =>
    obtain rfl := hquote
    refine (Scan.reads_skip _ _).ensures_bind ((Scan.ensures_text mid).imp ?_)
    rintro _ rest ⟨glyphs, hglyphs⟩
    exact ⟨gap, _, _, hgap, .text glyphs, by rw [hcs, hglyphs]⟩
  · exact ensures_mismatch _

theorem ensures_variant (names : List String) {cs : List Char} (h : cs.head? = some '"') :
    Ensures (variant names) cs fun _ rest => ∃ glyphs, cs = Glyph.quote glyphs ++ rest := by
  obtain ⟨cs, rfl⟩ := List.head?_eq_some_iff.mp h
  refine (Scan.reads_skip _ _).ensures_bind ((Scan.ensures_text cs).bind fun name mid hname => ?_)
  split
  · exact Scan.ensures_pure hname
  · exact Scan.ensures_failHere _

theorem ensures_variantKey (names : List String) (cs : List Char) :
    Ensures (variantKey names) cs fun _ rest =>
      ∃ gap glyphs, IsGap gap ∧ cs = gap ++ (Glyph.quote glyphs ++ rest) := by
  obtain ⟨gap, mid, rfl, hgap, hpeek⟩ := Scan.exists_peekToken cs
  refine hpeek.ensures_bind ?_
  split
  · next hquote =>
    refine (ensures_variant names hquote).imp ?_
    rintro _ rest ⟨glyphs, hglyphs⟩
    exact ⟨gap, glyphs, hgap, by rw [hglyphs]⟩
  · exact Scan.ensures_failAhead _
  · exact Scan.ensures_failAhead _
  · exact Scan.ensures_failAhead _

theorem ensures_null (cs : List Char) :
    Ensures null ('n' :: cs) fun _ rest => 'n' :: cs = ['n', 'u', 'l', 'l'] ++ rest := by
  refine (Scan.reads_skip _ _).ensures_bind ((Scan.ensures_ident _ cs).imp ?_)
  rintro _ rest rfl
  rfl

/-- A name is read from a text, or from an object with one key. -/
theorem recognizes_choice (names : List String) : Recognizes (choice names) := by
  intro cs
  obtain ⟨gap, mid, rfl, hgap, hpeek⟩ := Scan.exists_peekToken cs
  refine hpeek.ensures_bind ?_
  split
  · next hquote =>
    refine (ensures_variant names hquote).imp ?_
    rintro _ rest ⟨glyphs, hglyphs⟩
    exact ⟨gap, _, _, hgap, .text glyphs, by rw [hglyphs]⟩
  · next hbrace =>
    obtain ⟨mid, rfl⟩ := List.head?_eq_some_iff.mp hbrace
    refine (Scan.reads_skip _ _).ensures_bind ((ensures_variantKey names mid).bind ?_)
    rintro name _ ⟨lead, key, hlead, rfl⟩
    refine (Scan.ensures_colon _).bind ?_
    rintro _ mid ⟨gap', hgap', rfl⟩
    refine ensures_token_bind fun gap'' c mid' hgap'' hmid => ?_
    split
    · next hn =>
      obtain rfl := hn
      refine (ensures_null mid').bind fun _ mid'' hnull => ?_
      obtain ⟨back, rest, rfl, hback, hpeek⟩ := Scan.exists_peekToken mid''
      refine hpeek.ensures_bind ?_
      split
      · next hbrace =>
        obtain ⟨rest, rfl⟩ := List.head?_eq_some_iff.mp hbrace
        refine (Scan.reads_skip _ _).ensures_bind (Scan.ensures_pure ?_)
        refine ⟨gap, .object [(key, .null)], _, hgap, .object
          (.member (.first hlead) hgap' hgap'' .null (.close false hback)), ?_⟩
        rw [hmid, hnull]
        simp
      · exact Scan.ensures_failHere _
      · exact Scan.ensures_failHere _
    · exact Fails.bind (fails_mismatch _ _)
  · exact Scan.ensures_failAhead _
  · exact Scan.ensures_failAhead _

theorem recognizes_optional {inner : Scan Datum} (h : Recognizes inner) :
    Recognizes (Reading.optional inner) := by
  intro cs
  obtain ⟨gap, mid, rfl, hgap, hpeek⟩ := Scan.exists_peekToken cs
  refine hpeek.ensures_bind ?_
  split
  · next hn =>
    obtain ⟨mid, rfl⟩ := List.head?_eq_some_iff.mp hn
    refine (ensures_null mid).bind fun _ rest hnull => Scan.ensures_pure ?_
    exact ⟨gap, _, _, hgap, .null, by rw [hnull]⟩
  · refine (h mid).imp ?_
    rintro _ rest ⟨gap', n, front, hgap', hn, rfl⟩
    refine ⟨gap ++ gap', n, front, Scan.isGap_append hgap hgap', hn, ?_⟩
    rw [List.append_assoc]

/-! ## Lists -/

/-- The text in front of an element leads to it, and a list ends at its bracket. -/
theorem ensures_hasElement (first : Bool) (cs : List Char) :
    Ensures (hasElement first) cs fun more mid =>
      more = true ∧ (∃ lead, Leads first lead ∧ cs = lead ++ mid) ∨
        more = false ∧ ∃ gap rest, IsGap gap ∧ mid = ']' :: rest ∧ cs = gap ++ mid := by
  obtain ⟨gap, mid, rfl, hgap, hpeek⟩ := Scan.exists_peekToken cs
  refine hpeek.ensures_bind ?_
  split
  · exact Scan.ensures_failAhead _
  · next hsquare =>
    obtain ⟨mid, rfl⟩ := List.head?_eq_some_iff.mp hsquare
    exact Scan.ensures_pure (.inr ⟨rfl, gap, mid, hgap, rfl, rfl⟩)
  · next c hsquare hc =>
    split
    · next hfirst =>
      obtain rfl := hfirst
      exact Scan.ensures_pure (.inl ⟨rfl, gap, .first hgap, rfl⟩)
    · next hfirst =>
      obtain rfl := eq_false_of_ne_true hfirst
      split
      · next hcomma =>
        obtain rfl := hcomma
        obtain ⟨mid, rfl⟩ := List.head?_eq_some_iff.mp hc
        obtain ⟨gap', mid, rfl, hgap', hpeek'⟩ := Scan.exists_peekToken mid
        refine (Scan.reads_skip _ _).ensures_bind (hpeek'.ensures_bind ?_)
        split
        · exact Scan.ensures_failAhead _
        · exact Scan.ensures_pure (.inl ⟨rfl, gap ++ ',' :: gap', .next hgap hgap', by simp⟩)
        · exact Scan.ensures_failAhead _
      · exact Scan.ensures_failAhead _

theorem ensures_elements {item : Scan Datum} (h : Recognizes item) (first : Bool)
    (fuel cs : List Char) : Ensures (elements item first fuel) cs fun _ rest =>
      ∃ items front, WrittenItems first items front ∧ cs = front ++ rest := by
  induction fuel generalizing first cs with
  | nil => exact Scan.ensures_failHere _
  | cons _ left ih =>
    refine (ensures_hasElement first cs).bind ?_
    rintro _ mid (⟨rfl, lead, hlead, rfl⟩ | ⟨rfl, gap, rest, hgap, rfl, rfl⟩)
    · refine (h mid).bind ?_
      rintro d _ ⟨gap, n, front, hgap, hn, rfl⟩
      refine (ih false _).bind ?_
      rintro ds rest ⟨items, back, hitems, rfl⟩
      refine Scan.ensures_pure ⟨n :: items, _, .item (Scan.leads_append hlead hgap) hn hitems, ?_⟩
      simp only [List.append_assoc]
    · refine (Scan.reads_skip _ _).ensures_bind (Scan.ensures_pure ?_)
      exact ⟨[], _, .close first hgap, by simp⟩

theorem recognizes_list {item : Scan Datum} (h : Recognizes item) :
    Recognizes (Reading.list item) := by
  intro cs
  refine ensures_token_bind fun gap c mid hgap hcs => ?_
  split
  · next hsquare =>
    obtain rfl := hsquare
    refine (Scan.reads_skip _ _).ensures_bind ?_
    refine Ensures.lookahead (f := fun left => Datum.list <$> elements item true left) ?_
    refine Ensures.map Datum.list ((ensures_elements h true mid mid).imp ?_)
    rintro _ rest ⟨items, front, hitems, rfl⟩
    exact ⟨gap, .list items, _, hgap, .list hitems, hcs⟩
  · exact ensures_mismatch _

/-! ## Records written as arrays -/

theorem ensures_closeArray (cs : List Char) :
    Ensures closeArray cs fun _ rest => ∃ gap, IsGap gap ∧ cs = gap ++ ']' :: rest := by
  obtain ⟨gap, mid, rfl, hgap, hpeek⟩ := Scan.exists_peekToken cs
  refine hpeek.ensures_bind ?_
  split
  · next hsquare =>
    obtain ⟨mid, rfl⟩ := List.head?_eq_some_iff.mp hsquare
    exact (Scan.reads_skip _ _).ensures ⟨gap, hgap, rfl⟩
  · refine .last fun _ _ => .last fun _ _ => ?_
    split <;> exact Scan.ensures_failAhead _
  · exact Scan.ensures_failAhead _
  · exact Scan.ensures_failAhead _

/-- At the closing bracket, no more than the bracket is read, as all other fields have to take
their defaults. -/
theorem ensures_arrayValues_close (record : String) (total : Nat) (slots : List Slot) (done : Nat)
    (cs : List Char) :
    Ensures (arrayValues record total done slots) (']' :: cs) fun _ rest => cs = rest := by
  induction slots generalizing done with
  | nil =>
    have hclose : Scan.Reads closeArray (']' :: cs) () cs :=
      (Scan.reads_peekToken isGap_nil rfl cs).bind (Scan.reads_skip _ _)
    exact hclose.ensures_bind (Scan.ensures_pure rfl)
  | cons slot slots ih =>
    refine (reads_hasElement_close _ isGap_nil cs).ensures_bind ?_
    cases slot.default with
    | none => exact .last fun _ _ => Fails.bind (Scan.ensures_failHere _)
    | some d =>
      refine (Scan.Reads.pure d _).ensures_bind ((ih (done + 1)).bind ?_)
      rintro ds _ rfl
      exact Scan.ensures_pure rfl

section
variable {slots : List Slot} (h : ∀ slot ∈ slots, Recognizes slot.read)
include h

theorem ensures_arrayValues (record : String) (total done : Nat) (cs : List Char) :
    Ensures (arrayValues record total done slots) cs fun _ rest =>
      ∃ items front, WrittenItems (decide (done = 0)) items front ∧ cs = front ++ rest := by
  induction slots generalizing done cs with
  | nil =>
    refine (ensures_closeArray cs).bind ?_
    rintro _ rest ⟨gap, hgap, rfl⟩
    exact Scan.ensures_pure ⟨[], _, .close _ hgap, by simp⟩
  | cons slot slots ih =>
    obtain ⟨hslot, hslots⟩ := List.forall_mem_cons.mp h
    refine (ensures_hasElement _ cs).bind ?_
    rintro _ mid (⟨rfl, lead, hlead, rfl⟩ | ⟨rfl, gap, rest, hgap, rfl, rfl⟩)
    · refine (hslot mid).bind ?_
      rintro d _ ⟨gap, n, front, hgap, hn, rfl⟩
      refine (ih hslots (done + 1) _).bind ?_
      rintro ds rest ⟨items, back, hitems, rfl⟩
      refine Scan.ensures_pure ⟨n :: items, _, .item (Scan.leads_append hlead hgap) hn hitems, ?_⟩
      simp only [List.append_assoc]
    · have hclose : WrittenItems (decide (done = 0)) [] (gap ++ [']']) := .close _ hgap
      cases slot.default with
      | none => exact .last fun _ _ => Fails.bind (Scan.ensures_failHere _)
      | some d =>
        refine (Scan.Reads.pure d _).ensures_bind ?_
        refine (ensures_arrayValues_close record total slots (done + 1) rest).bind ?_
        rintro ds _ rfl
        exact Scan.ensures_pure ⟨[], _, hclose, by simp⟩

/-! ## Records written as objects -/

omit h in
/-- The text in front of a key leads to it, and an object ends at its bracket. -/
theorem ensures_hasMember (first : Bool) (cs : List Char) :
    Ensures (hasMember first) cs fun more mid =>
      more = true ∧ (∃ lead rest, Leads first lead ∧ mid = '"' :: rest ∧ cs = lead ++ mid) ∨
        more = false ∧ ∃ gap rest, IsGap gap ∧ mid = '\x7d' :: rest ∧ cs = gap ++ mid := by
  obtain ⟨gap, mid, rfl, hgap, hpeek⟩ := Scan.exists_peekToken cs
  refine hpeek.ensures_bind ?_
  split
  · exact Scan.ensures_failAhead _
  · next hcurly =>
    obtain ⟨mid, rfl⟩ := List.head?_eq_some_iff.mp hcurly
    exact Scan.ensures_pure (.inr ⟨rfl, gap, mid, hgap, rfl, rfl⟩)
  · next c hcurly hc =>
    obtain ⟨mid, rfl⟩ := List.head?_eq_some_iff.mp hc
    split
    · next hfirst =>
      obtain rfl := hfirst
      split
      · next hquote =>
        obtain rfl := hquote
        exact Scan.ensures_pure (.inl ⟨rfl, gap, mid, .first hgap, rfl, rfl⟩)
      · exact Scan.ensures_failAhead _
    · next hfirst =>
      obtain rfl := eq_false_of_ne_true hfirst
      split
      · next hcomma =>
        obtain rfl := hcomma
        obtain ⟨gap', mid, rfl, hgap', hpeek'⟩ := Scan.exists_peekToken mid
        refine (Scan.reads_skip _ _).ensures_bind (hpeek'.ensures_bind ?_)
        split
        · next hquote =>
          obtain ⟨mid, rfl⟩ := List.head?_eq_some_iff.mp hquote
          refine Scan.ensures_pure (.inl ⟨rfl, gap ++ ',' :: gap', mid, .next hgap hgap', rfl, ?_⟩)
          simp
        · exact Scan.ensures_failAhead _
        · exact Scan.ensures_failAhead _
        · exact Scan.ensures_failAhead _
      · exact Scan.ensures_failAhead _

/-- Behind its key, the value of a member stands behind a colon, whether it is read or passed
over. -/
theorem ensures_members (fuel : List Char) (first : Bool) (known : List (String × Datum))
    (cs : List Char) : Ensures (Reading.members slots first known fuel) cs fun _ rest =>
      ∃ members front, WrittenMembers first members front ∧ cs = front ++ rest := by
  induction fuel generalizing first known cs with
  | nil => exact Scan.ensures_failHere _
  | cons _ left ih =>
    refine (ensures_hasMember first cs).bind ?_
    rintro _ mid (⟨rfl, lead, mid, hlead, rfl, rfl⟩ | ⟨rfl, gap, rest, hgap, rfl, rfl⟩)
    · refine (Scan.reads_skip _ _).ensures_bind ((Scan.ensures_text mid).bind ?_)
      rintro name mid' ⟨key, hkey⟩
      rw [hkey]
      have hmember : ∀ {α : Type} {value : Scan α} (known : α → List (String × Datum)),
          Recognizes value → Ensures (do
            Scan.colon
            let a ← value
            Reading.members slots false (known a) left) mid' fun _ rest =>
              ∃ members front, WrittenMembers first members front ∧
                lead ++ (Glyph.quote key ++ mid') = front ++ rest := by
        intro α value known hvalue
        refine (Scan.ensures_colon mid').bind ?_
        rintro _ mid ⟨gap, hgap, rfl⟩
        refine (hvalue mid).bind ?_
        rintro a _ ⟨gap', n, front, hgap', hn, rfl⟩
        refine (ih false (known a) _).imp ?_
        rintro _ rest ⟨members, back, hmembers, rfl⟩
        refine ⟨(key, n) :: members, _, .member hlead hgap hgap' hn hmembers, ?_⟩
        simp only [List.append_assoc, List.cons_append]
      split
      · exact hmember (fun _ => known) Scan.recognizes_passValue
      · next slot hslot =>
        split
        · exact (fails_duplicate name mid').imp fun _ _ => False.elim
        · exact hmember (fun d => (name, d) :: known) (h slot (List.mem_of_find?_eq_some hslot))
    · refine (Scan.reads_skip _ _).ensures_bind (Scan.ensures_pure ?_)
      exact ⟨[], _, .close first hgap, by simp⟩

omit h in
theorem ensures_memberValues (known : List (String × Datum)) (cs : List Char) :
    Ensures (memberValues known slots) cs fun _ rest => cs = rest := by
  induction slots with
  | nil => exact Scan.ensures_pure rfl
  | cons slot slots ih =>
    rw [memberValues]
    split
    · refine ih.bind ?_
      rintro _ _ rfl
      exact Scan.ensures_pure rfl
    · exact Scan.ensures_failHere _

theorem recognizes_record (name : String) : Recognizes (Reading.record name slots) := by
  intro cs
  refine ensures_token_bind fun gap c mid hgap hcs => ?_
  split
  · refine (Scan.reads_skip _ _).ensures_bind ?_
    refine Ensures.map Datum.record ((ensures_arrayValues h name slots.length 0 mid).imp ?_)
    rintro _ rest ⟨items, front, hitems, rfl⟩
    exact ⟨gap, .list items, _, hgap, .list hitems, hcs⟩
  · refine (Scan.reads_skip _ _).ensures_bind ?_
    refine Ensures.lookahead (f := fun left => do
      let known ← Reading.members slots true [] left
      return Datum.record (← memberValues known slots)) ?_
    refine (ensures_members h mid true [] mid).bind ?_
    rintro known _ ⟨members, front, hmembers, rfl⟩
    refine Ensures.map Datum.record ((ensures_memberValues known _).imp ?_)
    rintro _ _ rfl
    exact ⟨gap, .object members, _, hgap, .object hmembers, hcs⟩
  · exact ensures_mismatch _

end

/-! ## Schemas -/

mutual

theorem Schema.recognizes : ∀ s : Schema, Recognizes s.read
  | .number => fun cs => (recognizes_number cs).map Datum.number
  | .text => fun cs => (recognizes_text cs).map Datum.text
  | .choice names => fun cs => (recognizes_choice names cs).map Datum.text
  | .list item => recognizes_list (Schema.recognizes item)
  | .optional inner => recognizes_optional (Schema.recognizes inner)
  | .record name fields => recognizes_record (Field.recognizes_slots fields) name

theorem Field.recognizes_slots :
    ∀ fields : List Field, ∀ slot ∈ Field.slots fields, Recognizes slot.read
  | [] => List.forall_mem_nil _
  | .mk _ schema _ _ :: fields =>
    List.forall_mem_cons.mpr ⟨Schema.recognizes schema, Field.recognizes_slots fields⟩

end

/-- **Only texts of values are loaded.** -/
theorem Schema.exists_writtenDocument {s : Schema} {text : String} {d : Datum}
    (h : s.load text = .ok d) : ∃ n, WrittenDocument n text.toList := by
  have hread : Ensures s.readDocument text.toList fun _ _ =>
      ∃ n, WrittenDocument n text.toList := by
    refine (s.recognizes _).bind ?_
    rintro d mid ⟨front, n, cs, hfront, hn, htext⟩
    obtain ⟨back, rest, rfl, hback, hpeek⟩ := Scan.exists_peekToken mid
    refine hpeek.ensures_bind ?_
    split
    · next hend =>
      rw [List.head?_eq_none_iff] at hend
      refine Scan.ensures_pure ⟨n, front, cs, back, hfront, hn, hback, ?_⟩
      rw [htext, hend, List.append_nil, List.append_assoc]
    · exact Scan.ensures_failAhead _
  rw [load] at h
  cases hrun : s.readDocument.run ⟨text.toList, 0⟩ with
  | error failure =>
    rw [hrun] at h
    cases h
  | ok result => exact hread 0 _ _ _ hrun

end InterlockLadder
