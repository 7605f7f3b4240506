import InterlockLadder.Proofs.Outcomes
import Mathlib.Data.List.Forall2

/-! What documents mean. A schema gives a value a datum or none (`Schema.interpret?`), whatever text
writes the value: of an object, it takes the members that name a field, in any order, and the
defaults of the others. Readers load exactly what a document means (`Schema.load_eq_ok_iff`). -/

namespace InterlockLadder

open Json Reading
open Json.Scan (Ensures Fails Gives Reads)

/-! ## The meaning of a document -/

/-- A field with what it makes of a value. -/
structure Facet where
  name : String
  value? : Node → Option Datum
  default : Option Datum

/-- What bears a name that nothing else bears is found by it. -/
theorem find?_of_nodup {α : Type} {name : α → String} {as : List α} (h : (as.map name).Nodup)
    {a : α} (ha : a ∈ as) : as.find? (name · = name a) = some a := by
  induction as with
  | nil => cases ha
  | cons other as ih =>
    obtain ⟨hother, h⟩ := List.nodup_cons.mp h
    obtain rfl | ha := List.mem_cons.mp ha
    · exact List.find?_cons_of_pos (decide_eq_true rfl)
    · have hne : name other ≠ name a := fun heq => hother (heq ▸ List.mem_map_of_mem ha)
      rw [List.find?_cons_of_neg (by simpa using hne), ih h ha]

namespace Facet

/-- What a member gives: the value of the field that it names, or nothing if it names none. -/
def ofMember? (facets : List Facet) (member : List Glyph × Node) :
    Option (List (String × Datum)) := do
  let name ← Glyph.read? member.1
  match facets.find? (·.name = name) with
  | none => some []
  | some p => (p.value? member.2).map fun d => [(name, d)]

def given? (facets : List Facet) (members : List (List Glyph × Node)) :
    Option (List (String × Datum)) :=
  (members.mapM (ofMember? facets)).map List.flatten

/-- The values of the fields, when some are known by name. -/
def values? (known : List (String × Datum)) (facets : List Facet) : Option (List Datum) :=
  facets.mapM fun p => (known.lookup p.name).or p.default

/-- What is known once more fields are given, none of them twice. -/
def join? (known given : List (String × Datum)) : Option (List (String × Datum)) :=
  if ((given.reverse ++ known).map Prod.fst).Nodup then some (given.reverse ++ known) else none

/-- The values of the fields from an object, which names each of them at most once. -/
def ofObject? (facets : List Facet) (members : List (List Glyph × Node)) :
    Option (List Datum) := do
  let known ← given? facets members
  if (known.map Prod.fst).Nodup then values? known facets else none

/-- The values of the fields from an array, which holds no more than these. -/
def ofArray? : List Facet → List Node → Option (List Datum)
  | [], [] => some []
  | [], _ :: _ => none
  | p :: facets, [] => do return (← p.default) :: (← ofArray? facets [])
  | p :: facets, item :: items => do return (← p.value? item) :: (← ofArray? facets items)

theorem given?_cons (facets : List Facet) (member : List Glyph × Node)
    (members : List (List Glyph × Node)) :
    given? facets (member :: members) =
      (ofMember? facets member).bind fun given => (given? facets members).map (given ++ ·) := by
  rw [given?, given?, List.mapM_cons]
  cases ofMember? facets member with
  | none => rfl
  | some given =>
    cases members.mapM (ofMember? facets) <;> rfl

section
variable {facets : List Facet} {members : List (List Glyph × Node)}

theorem given?_cons_eq_some {member : List Glyph × Node} {given : List (String × Datum)} :
    given? facets (member :: members) = some given ↔ ∃ front back,
      ofMember? facets member = some front ∧ given? facets members = some back ∧
        front ++ back = given := by
  simp only [given?_cons, Option.bind_eq_some_iff, Option.map_eq_some_iff, exists_and_left]

theorem ofObject?_eq_some {values : List Datum} :
    ofObject? facets members = some values ↔ ∃ known, given? facets members = some known ∧
      (known.map Prod.fst).Nodup ∧ values? known facets = some values := by
  simp only [ofObject?, Option.bind_eq_bind, Option.bind_eq_some_iff, Option.ite_none_right_eq_some]

theorem ofMember?_of_mem {p : Facet} (hp : p ∈ facets) (hnodup : (facets.map Facet.name).Nodup)
    {key : List Glyph} (hkey : Glyph.read? key = some p.name) (value : Node) :
    ofMember? facets (key, value) = (p.value? value).map fun d => [(p.name, d)] := by
  simp only [ofMember?, hkey, Option.bind_eq_bind, Option.bind_some, find?_of_nodup hnodup hp]

end

section
variable {known : List (String × Datum)} {name : String}

theorem lookup_isSome_iff : (known.lookup name).isSome ↔ name ∈ known.map Prod.fst := by
  rw [List.lookup_isSome_iff, List.mem_map]
  exact exists_congr fun m => and_congr_right fun _ => by rw [beq_iff_eq, eq_comm]

theorem join?_nil (h : (known.map Prod.fst).Nodup) : join? known [] = some known :=
  if_pos h

theorem join?_cons (d : Datum) (given : List (String × Datum)) :
    join? known ((name, d) :: given) = join? ((name, d) :: known) given := by
  rw [join?, join?, List.reverse_cons, List.append_assoc, List.singleton_append]

theorem join?_of_lookup (h : (known.lookup name).isSome) (d : Datum)
    (given : List (String × Datum)) : join? known ((name, d) :: given) = none := by
  rw [join?_cons, join?, if_neg]
  intro hnodup
  rw [List.map_append, List.map_cons] at hnodup
  have hnotin := (List.nodup_cons.mp (List.nodup_append.mp hnodup).2.1).1
  exact hnotin (lookup_isSome_iff.mp h)

end

/-- The order of what is given does not matter, as no field is given twice. -/
theorem lookup_eq_of_perm {known known' : List (String × Datum)} (hperm : known.Perm known')
    (h : (known.map Prod.fst).Nodup) (name : String) :
    known.lookup name = known'.lookup name := by
  induction hperm with
  | nil => rfl
  | cons a _ ih => rw [List.lookup_cons, List.lookup_cons, ih (List.nodup_cons.mp h).2]
  | swap a b known =>
    have hne : b.1 ≠ a.1 := List.ne_of_not_mem_cons (List.nodup_cons.mp h).1
    rw [List.lookup_cons, List.lookup_cons, List.lookup_cons, List.lookup_cons]
    by_cases hb : name = b.1
    · rw [hb, beq_self_eq_true, beq_false_of_ne hne]
    · rw [beq_false_of_ne hb]
  | trans hperm _ ih ih' => rw [ih h, ih' ((hperm.map _).nodup h)]

theorem values?_congr {known known' : List (String × Datum)} {facets : List Facet}
    (h : ∀ p ∈ facets,
      (known.lookup p.name).or p.default = (known'.lookup p.name).or p.default) :
    values? known facets = values? known' facets := by
  induction facets with
  | nil => rfl
  | cons p facets ih =>
    obtain ⟨hp, hplaces⟩ := List.forall_mem_cons.mp h
    rw [values?] at ih ⊢
    rw [List.mapM_cons, ih hplaces, hp, values?, values?, List.mapM_cons]

theorem values?_of_perm {known known' : List (String × Datum)} (hperm : known.Perm known')
    (h : (known.map Prod.fst).Nodup) (facets : List Facet) :
    values? known facets = values? known' facets :=
  values?_congr fun p _ => by rw [lookup_eq_of_perm hperm h]

theorem ofObject?_eq (facets : List Facet) (members : List (List Glyph × Node)) :
    ofObject? facets members =
      ((given? facets members).bind (join? [])).bind fun known => values? known facets := by
  rw [ofObject?]
  cases given? facets members with
  | none => rfl
  | some given =>
    have hreverse : (given.map Prod.fst).Nodup ↔ ((given.reverse ++ []).map Prod.fst).Nodup := by
      rw [List.append_nil, List.map_reverse, (List.reverse_perm _).nodup_iff]
    simp only [Option.bind_eq_bind, Option.bind_some, join?, hreverse]
    split
    · next hnodup =>
      rw [List.append_nil]
      exact values?_of_perm (List.reverse_perm given).symm (hreverse.mpr hnodup) facets
    · rfl

end Facet

mutual

/-- The datum that a value is by the schema. -/
def Schema.interpret? : Schema → Node → Option Datum
  | .number, n => n.number?.map Datum.number
  | .text, n => n.text?.map Datum.text
  | .choice names, n => (n.choice? names).map Datum.text
  | .list item, .list items => (items.mapM item.interpret?).map Datum.list
  | .list _, _ => none
  | .optional _, .null => some .absent
  | .optional inner, n => inner.interpret? n
  | .record _ fields, .object members =>
    (Facet.ofObject? (Field.facets fields) members).map Datum.record
  | .record _ fields, .list items =>
    (Facet.ofArray? (Field.facets fields) items).map Datum.record
  | .record _ _, _ => none

def Field.facets : List Field → List Facet
  | [] => []
  | .mk name schema default _ :: fields => ⟨name, schema.interpret?, default⟩ :: Field.facets fields

end

def Field.name : Field → String
  | mk name _ _ _ => name

namespace Field

theorem map_name_facets (fields : List Field) :
    (facets fields).map Facet.name = fields.map Field.name := by
  induction fields with
  | nil => rfl
  | cons field fields ih =>
    obtain ⟨name, schema, default, omitted⟩ := field
    rw [facets, List.map_cons, List.map_cons, ih]
    rfl

theorem mem_facets {fields : List Field} {name : String} {schema : Schema}
    {default : Option Datum} {omitted : Bool} (h : .mk name schema default omitted ∈ fields) :
    ⟨name, schema.interpret?, default⟩ ∈ facets fields := by
  induction fields with
  | nil => cases h
  | cons field fields ih =>
    obtain ⟨other, schema', default', omitted'⟩ := field
    rw [facets]
    obtain h | h := List.mem_cons.mp h
    · cases h
      exact List.mem_cons_self
    · exact .tail _ (ih h)

end Field

theorem Schema.interpret?_optional {inner : Schema} {n : Node} (h : n ≠ .null) :
    (optional inner).interpret? n = inner.interpret? n := by
  cases n with
  | null => exact absurd rfl h
  | _ => rfl

/-- The reader makes of each text what the value that is written there means. -/
def Interprets (m : Scan Datum) (value? : Node → Option Datum) : Prop :=
  ∀ ⦃n : Node⦄ ⦃gap cs rest : List Char⦄, Written n cs → IsGap gap → Delimits rest →
    Gives m (gap ++ (cs ++ rest)) (value? n) rest

/-! ## In front of elements and members -/

/-- Behind what leads to it, the reader is in front of an element. -/
theorem reads_hasElement {first : Bool} {lead : List Char} (hlead : Leads first lead) {c : Char}
    (hc : isGap c = false) (hclose : c ≠ ']') (cs : List Char) :
    Reads (hasElement first) (lead ++ c :: cs) true (c :: cs) := by
  cases hlead with
  | first hgap =>
    refine (Scan.reads_peekToken hgap hc cs).bind ?_
    split
    · next h => cases h
    · next h => exact absurd (Option.some.inj h) hclose
    · exact .pure _ _
  | next hgap hgap' =>
    rw [List.append_assoc, List.cons_append]
    refine (Scan.reads_peekToken hgap rfl _).bind ?_
    refine (Scan.reads_skip _ _).bind ((Scan.reads_peekToken hgap' hc cs).bind ?_)
    split
    · next h => exact absurd (Option.some.inj h) hclose
    · exact .pure _ _
    · next h => cases h

theorem reads_hasElement_close (first : Bool) {gap : List Char} (hgap : IsGap gap)
    (cs : List Char) : Reads (hasElement first) (gap ++ ']' :: cs) false (']' :: cs) :=
  (Scan.reads_peekToken hgap rfl cs).bind (.pure _ _)

theorem reads_hasMember {first : Bool} {lead : List Char} (hlead : Leads first lead)
    (cs : List Char) : Reads (hasMember first) (lead ++ '"' :: cs) true ('"' :: cs) := by
  cases hlead with
  | first hgap => exact (Scan.reads_peekToken hgap rfl cs).bind (.pure _ _)
  | next hgap hgap' =>
    rw [List.append_assoc, List.cons_append]
    refine (Scan.reads_peekToken hgap rfl _).bind ?_
    exact (Scan.reads_skip _ _).bind ((Scan.reads_peekToken hgap' rfl cs).bind (.pure _ _))

theorem reads_hasMember_close (first : Bool) {gap : List Char} (hgap : IsGap gap)
    (cs : List Char) : Reads (hasMember first) (gap ++ '\x7d' :: cs) false ('\x7d' :: cs) :=
  (Scan.reads_peekToken hgap rfl cs).bind (.pure _ _)

/-! ## Lists -/

/-- Fuel for one step for each item and one for the bracket suffices. -/
theorem gives_elements {item : Scan Datum} {value? : Node → Option Datum}
    (hitem : Interprets item value?) {items : List Node} {first : Bool} {cs : List Char}
    (h : WrittenItems first items cs) (rest : List Char) {fuel : List Char}
    (hfuel : items.length < fuel.length) :
    Gives (elements item first fuel) (cs ++ rest) (items.mapM value?) rest := by
  induction items generalizing first cs fuel with
  | nil =>
    obtain _ | ⟨_, left⟩ := fuel
    · cases hfuel
    cases h with
    | close _ hgap =>
      rw [List.append_assoc]
      refine (reads_hasElement_close first hgap rest).bind ?_
      exact (Scan.reads_skip _ _).bind (.pure _ _)
  | cons n items ih =>
    obtain _ | ⟨_, left⟩ := fuel
    · cases hfuel
    cases h with
    | item hlead h hs =>
      have hn := hitem h isGap_nil (hs.delimits rest)
      have hleft := ih hs (Nat.lt_of_succ_lt_succ hfuel)
      obtain ⟨c, cs, rfl, hbegins⟩ := h.exists_cons
      rw [List.append_assoc, List.append_assoc, List.mapM_cons]
      refine (reads_hasElement hlead hbegins.isToken.1 hbegins.isToken.2.1 _).gives_bind ?_
      exact hn.bind fun d _ => hleft.bind fun ds _ => (Reads.pure _ _).gives

theorem gives_list {item : Scan Datum} {value? : Node → Option Datum}
    (hitem : Interprets item value?) {items : List Node} {gap cs rest : List Char}
    (hgap : IsGap gap) (h : WrittenItems true items cs) :
    Gives (Reading.list item) (gap ++ '[' :: (cs ++ rest))
      ((items.mapM value?).map Datum.list) rest := by
  have hfuel : items.length < (cs ++ rest).length := by
    have hlt := h.length_lt
    rw [List.length_append]
    omega
  refine (reads_token hgap rfl _).gives_bind ((Scan.reads_skip _ _).gives_bind ?_)
  exact .lookahead (f := fun left => Datum.list <$> elements item true left)
    ((gives_elements hitem h rest hfuel).map Datum.list)

/-! ## Records written as arrays -/

/-- The facet stands for the same field as the reader's slot. -/
structure Slot.Matches (slot : Slot) (p : Facet) : Prop where
  name_eq : slot.name = p.name
  default_eq : slot.default = p.default
  interprets : Interprets slot.read p.value?

/-- An array that goes on behind all fields is not closed. -/
theorem fails_closeArray {n : Node} {first : Bool} {lead cs : List Char} (hlead : Leads first lead)
    (h : ∃ c cs', cs = c :: cs' ∧ n.Begins c) (rest : List Char) :
    Fails closeArray (lead ++ (cs ++ rest)) := by
  obtain ⟨c, cs, rfl, hbegins⟩ := h
  obtain ⟨hgap, hsquare, -, hcomma⟩ := hbegins.isToken
  cases hlead with
  | first hlead =>
    refine (Scan.reads_peekToken hlead hgap _).ensures_bind ?_
    split
    · next h => exact absurd (Option.some.inj h) hsquare
    · next h => exact absurd (Option.some.inj h) hcomma
    · exact Scan.ensures_failAhead _
    · exact Scan.ensures_failAhead _
  | next hlead hlead' =>
    rw [List.append_assoc]
    refine (Scan.reads_peekToken hlead rfl _).ensures_bind ?_
    refine .last fun _ _ => .last fun next _ => ?_
    split <;> exact Scan.ensures_failAhead _

section
variable {slots : List Slot} {facets : List Facet} (h : List.Forall₂ Slot.Matches slots facets)
include h

theorem gives_arrayValues (record : String) (total done : Nat) {items : List Node}
    {cs : List Char} (hcs : WrittenItems (decide (done = 0)) items cs) (rest : List Char) :
    Gives (arrayValues record total done slots) (cs ++ rest) (Facet.ofArray? facets items)
      rest := by
  induction h generalizing done items cs with
  | nil =>
    cases items with
    | nil =>
      cases hcs with
      | close _ hgap =>
        rw [List.append_assoc]
        have hclose : Reads closeArray (_ ++ ']' :: rest) () rest :=
          (Scan.reads_peekToken hgap rfl rest).bind (Scan.reads_skip _ _)
        exact hclose.bind (.pure _ _)
    | cons n items =>
      cases hcs with
      | item hlead hn hs =>
        rw [List.append_assoc, List.append_assoc]
        exact Fails.bind (fails_closeArray hlead hn.exists_cons _)
  | @cons slot p slots facets hslot hslots ih =>
    cases items with
    | nil =>
      cases hcs with
      | close _ hgap =>
        have hleft := ih (done + 1) (.close false isGap_nil)
        rw [List.append_assoc]
        refine (reads_hasElement_close _ hgap rest).gives_bind ?_
        rw [Facet.ofArray?, ← hslot.default_eq]
        cases slot.default with
        | none => exact Ensures.last fun _ _ => Fails.bind (Scan.ensures_failHere _)
        | some d =>
          refine (Reads.pure d _).gives_bind ?_
          exact hleft.bind fun ds _ => (Reads.pure _ _).gives
    | cons n items =>
      cases hcs with
      | item hlead hn hs =>
        have hvalue := hslot.interprets hn isGap_nil (hs.delimits rest)
        have hleft := ih (done + 1) hs
        obtain ⟨c, cs, rfl, hbegins⟩ := hn.exists_cons
        rw [List.append_assoc, List.append_assoc, Facet.ofArray?]
        refine (reads_hasElement hlead hbegins.isToken.1 hbegins.isToken.2.1 _).gives_bind ?_
        exact hvalue.bind fun d _ => hleft.bind fun ds _ => (Reads.pure _ _).gives

/-! ## Records written as objects -/

theorem find?_matches (name : String) :
    Option.Rel Slot.Matches (slots.find? (·.name = name)) (facets.find? (·.name = name)) := by
  induction h with
  | nil => exact .none
  | @cons slot p slots facets hslot hslots ih =>
    rw [List.find?_cons, List.find?_cons, hslot.name_eq]
    cases decide (p.name = name) with
    | true => exact .some hslot
    | false => exact ih

/-- The members give their fields what they mean, unless one is given twice. -/
theorem gives_members {members : List (List Glyph × Node)} {first : Bool} {cs : List Char}
    (hcs : WrittenMembers first members cs) (rest : List Char) {known : List (String × Datum)}
    (hknown : (known.map Prod.fst).Nodup) {fuel : List Char}
    (hfuel : members.length < fuel.length) :
    Gives (Reading.members slots first known fuel) (cs ++ rest)
      ((Facet.given? facets members).bind (Facet.join? known)) rest := by
  induction members generalizing first cs known fuel with
  | nil =>
    obtain _ | ⟨_, left⟩ := fuel
    · cases hfuel
    cases hcs with
    | close _ hgap =>
      have hgiven : (Facet.given? facets []).bind (Facet.join? known) = some known :=
        Facet.join?_nil hknown
      rw [List.append_assoc, hgiven]
      refine (reads_hasMember_close first hgap rest).bind ?_
      exact (Scan.reads_skip _ _).bind (.pure _ _)
  | cons member members ih =>
    obtain ⟨key, value⟩ := member
    obtain _ | ⟨_, left⟩ := fuel
    · cases hfuel
    replace hfuel := Nat.lt_of_succ_lt_succ hfuel
    cases hcs with
    | member hlead hgap hgap' hvalue hs =>
      have hrest := hs.delimits rest
      rw [Facet.given?_cons, Facet.ofMember?]
      simp only [List.append_assoc, List.cons_append, Option.bind_eq_bind, Option.bind_assoc,
        Option.bind_map]
      refine (reads_hasMember hlead _).gives_bind ((Scan.reads_skip _ _).gives_bind ?_)
      refine (Scan.gives_text key _).bind fun name _ => ?_
      have hname := find?_matches h name
      generalize slots.find? _ = slot? at hname ⊢
      generalize facets.find? _ = p? at hname ⊢
      cases hname with
      | none =>
        refine (Scan.reads_colon hgap _).gives_bind ?_
        exact (Scan.reads_passValue hvalue hgap' hrest).gives_bind (ih hs hknown hfuel)
      | @some slot p hmatch =>
        simp only [Option.bind_map, Function.comp_def, List.singleton_append]
        by_cases hlookup : (known.lookup name).isSome
        · -- The field is given a second time, whatever its value is.
          simp only [Facet.join?_of_lookup hlookup, Option.bind_fun_none]
          rw [if_pos hlookup]
          exact fails_duplicate _ _
        · simp only [Facet.join?_cons]
          rw [if_neg hlookup]
          refine (Scan.reads_colon hgap _).gives_bind ?_
          refine (hmatch.interprets hvalue hgap' hrest).bind fun d _ => ih hs ?_ hfuel
          exact List.nodup_cons.mpr ⟨fun hmem => hlookup (Facet.lookup_isSome_iff.mpr hmem), hknown⟩

theorem gives_memberValues (known : List (String × Datum)) (cs : List Char) :
    Gives (memberValues known slots) cs (Facet.values? known facets) cs := by
  induction h with
  | nil => exact Reads.pure [] cs
  | @cons slot p slots facets hslot hslots ih =>
    rw [Facet.values?, List.mapM_cons, memberValues, hslot.name_eq, hslot.default_eq]
    cases (known.lookup p.name).or p.default with
    | none => exact Scan.ensures_failHere _
    | some d => exact ih.bind fun ds _ => (Reads.pure _ _).gives

theorem gives_record_object (record : String) {members : List (List Glyph × Node)}
    {gap cs : List Char} (hgap : IsGap gap) (hcs : WrittenMembers true members cs)
    (rest : List Char) :
    Gives (Reading.record record slots) (gap ++ '\x7b' :: (cs ++ rest))
      ((Facet.ofObject? facets members).map Datum.record) rest := by
  have hfuel : members.length < (cs ++ rest).length := by
    have hlt := hcs.length_lt
    rw [List.length_append]
    omega
  rw [Facet.ofObject?_eq, Option.map_bind]
  refine (reads_token hgap rfl _).gives_bind ((Scan.reads_skip _ _).gives_bind ?_)
  refine .lookahead (f := fun left => do
    let known ← Reading.members slots true [] left
    return Datum.record (← memberValues known slots)) ?_
  have hknown : (([] : List (String × Datum)).map Prod.fst).Nodup := List.nodup_nil
  refine (gives_members h hcs rest hknown hfuel).bind fun known _ => ?_
  exact (gives_memberValues h known rest).map Datum.record

theorem gives_record_array (record : String) {items : List Node} {gap cs : List Char}
    (hgap : IsGap gap) (hcs : WrittenItems true items cs) (rest : List Char) :
    Gives (Reading.record record slots) (gap ++ '[' :: (cs ++ rest))
      ((Facet.ofArray? facets items).map Datum.record) rest := by
  refine (reads_token hgap rfl _).gives_bind ((Scan.reads_skip _ _).gives_bind ?_)
  exact (gives_arrayValues h record slots.length 0 hcs rest).map Datum.record

end

/-! ## Schemas -/

/-- Nothing is read where neither an object nor an array stands for a record. -/
theorem fails_record {n : Node} (h : ¬n.Begins '[' ∧ ¬n.Begins '\x7b') (record : String)
    (slots : List Slot) {gap cs : List Char} (hgap : IsGap gap) (hcs : Written n cs)
    (rest : List Char) : Fails (Reading.record record slots) (gap ++ (cs ++ rest)) := by
  obtain ⟨c, cs, rfl, hbegins⟩ := hcs.exists_cons
  refine (reads_token hgap hbegins.isToken.1 _).ensures_bind ?_
  split
  · exact absurd rfl (hbegins.ne h.1)
  · exact absurd rfl (hbegins.ne h.2)
  · exact fails_mismatch _ _

theorem fails_list {n : Node} (h : ¬n.Begins '[') (item : Scan Datum) {gap cs : List Char}
    (hgap : IsGap gap) (hcs : Written n cs) (rest : List Char) :
    Fails (Reading.list item) (gap ++ (cs ++ rest)) := by
  obtain ⟨c, cs, rfl, hbegins⟩ := hcs.exists_cons
  refine (reads_token hgap hbegins.isToken.1 _).ensures_bind ?_
  rw [if_neg (hbegins.ne h)]
  exact fails_mismatch _ _

namespace Schema

theorem interprets_list {item : Schema} (h : Interprets item.read item.interpret?) :
    Interprets (list item).read (list item).interpret? := by
  intro n gap cs rest hn hgap hrest
  cases n with
  | list items =>
    cases hn with
    | list hitems => exact gives_list h hgap hitems
  | _ => exact fails_list (by simp [Node.Begins]) _ hgap hn rest

theorem interprets_optional {inner : Schema} (h : Interprets inner.read inner.interpret?) :
    Interprets (optional inner).read (optional inner).interpret? := by
  intro n gap cs rest hn hgap hrest
  cases n with
  | null =>
    cases hn with
    | null =>
      refine (Scan.reads_peekToken hgap rfl _).bind ?_
      exact (reads_null rest).bind (.pure _ _)
  | _ =>
    have hinner := h hn isGap_nil hrest
    obtain ⟨c, cs, rfl, hbegins⟩ := hn.exists_cons
    refine (Scan.reads_peekToken hgap hbegins.isToken.1 _).gives_bind ?_
    rw [if_neg fun hc => hbegins.ne (by simp [Node.Begins]) (Option.some.inj hc)]
    exact hinner

theorem interprets_record (name : String) {fields : List Field}
    (h : List.Forall₂ Slot.Matches (Field.slots fields) (Field.facets fields)) :
    Interprets (record name fields).read (record name fields).interpret? := by
  intro n gap cs rest hn hgap hrest
  cases n with
  | object members =>
    cases hn with
    | object hmembers => exact gives_record_object h name hgap hmembers rest
  | list items =>
    cases hn with
    | list hitems => exact gives_record_array h name hgap hitems rest
  | _ => exact fails_record (by simp [Node.Begins]) name _ hgap hn rest

end Schema

mutual

theorem Schema.interprets : ∀ s : Schema, Interprets s.read s.interpret?
  | .number => fun _ _ _ _ hn hgap hrest => (gives_number hgap hn hrest).map Datum.number
  | .text => fun _ _ _ _ hn hgap _ => (gives_text hgap hn).map Datum.text
  | .choice names => fun _ _ _ _ hn hgap _ => (gives_choice hgap hn names).map Datum.text
  | .list item => Schema.interprets_list (Schema.interprets item)
  | .optional inner => Schema.interprets_optional (Schema.interprets inner)
  | .record name fields => Schema.interprets_record name (Field.matches_facets fields)

theorem Field.matches_facets :
    ∀ fields : List Field, List.Forall₂ Slot.Matches (Field.slots fields) (Field.facets fields)
  | [] => .nil
  | .mk _ schema _ _ :: fields =>
    .cons ⟨rfl, rfl, Schema.interprets schema⟩ (Field.matches_facets fields)

end

/-- **A document loads as what it means**, whatever text writes it, and fails to load if it means
nothing. -/
theorem Schema.load_eq_ok_iff (s : Schema) {n : Node} {text : String}
    (h : WrittenDocument n text.toList) (d : Datum) :
    s.load text = .ok d ↔ s.interpret? n = some d := by
  obtain ⟨front, cs, back, hfront, hn, hback, htext⟩ := h
  have hend := Delimits.append_gap hback delimits_nil
  rw [List.append_nil] at hend
  have hread : Gives s.readDocument text.toList ((s.interpret? n).bind some) [] := by
    rw [htext, List.append_assoc]
    refine (s.interprets hn hfront hend).bind fun d _ => ?_
    exact ((Scan.reads_peekToken_end hback).bind (.pure d [])).gives
  rw [Option.bind_fun_some] at hread
  rw [← hread.exists_run_iff 0 d, load]
  cases s.readDocument.run ⟨text.toList, 0⟩ with
  | error failure => simp [Except.map]
  | ok result =>
    obtain ⟨a, behind⟩ := result
    simp [Except.map]

end InterlockLadder
