import InterlockLadder.Proofs.Interpretation
import InterlockLadder.Proofs.Spelling

/-! Data read back from their documents. A schema whose records tell their fields apart, and leave
out no field that is missed, gives the document of every datum that fits it this datum as its
meaning (`Schema.readsBack`), so the datum is loaded from each text of the document. -/

namespace InterlockLadder

open Json

/-! ## Data that fit a schema -/

mutual

/-- The datum is one that a document of the schema may hold. -/
def Schema.Fits : Schema → Datum → Prop
  | .number, .number _ => True
  | .text, .text _ => True
  | .choice names, .text s => s ∈ names
  | .list item, .list items => ∀ d ∈ items, item.Fits d
  | .optional inner, d => d.isAbsent ∨ inner.Fits d
  | .record _ fields, .record values => Field.Fit fields values
  | _, _ => False

def Field.Fit : List Field → List Datum → Prop
  | [], [] => True
  | .mk _ schema _ _ :: fields, value :: values => schema.Fits value ∧ Field.Fit fields values
  | _, _ => False

end

mutual

/-- The fields of each record have names of their own, and one that is not written when it is
absent is absent by default. -/
def Schema.isSound : Schema → Bool
  | .number | .text | .choice _ => true
  | .list item => item.isSound
  | .optional inner => inner.isSound
  | .record _ fields => decide (fields.map Field.name).Nodup && Field.areSound fields

def Field.areSound : List Field → Bool
  | [] => true
  | .mk _ schema default omitted :: fields =>
    schema.isSound && (!omitted || default.any Datum.isAbsent) && Field.areSound fields

end

/-- The document of each datum that fits means this datum. -/
def Schema.ReadsBack (s : Schema) : Prop :=
  ∀ ⦃d : Datum⦄, s.Fits d → s.interpret? (s.write d).toNode = some d

def Field.ReadBack : List Field → Prop
  | [] => True
  | .mk _ schema _ _ :: fields => schema.ReadsBack ∧ Field.ReadBack fields

theorem Datum.eq_absent_of_isAbsent {d : Datum} (h : d.isAbsent) : d = .absent := by
  cases d <;> first | rfl | cases h

/-! ## Single values and lists -/

namespace Schema

/-- What `null` means is absent. -/
theorem isAbsent_of_interpret?_null {s : Schema} {d : Datum} (h : s.interpret? .null = some d) :
    d.isAbsent := by
  cases s with
  | optional inner =>
    cases h
    rfl
  | _ => cases h

theorem readsBack_number : number.ReadsBack := by
  intro d hd
  cases d with
  | number n => exact congrArg (Option.map Datum.number) (NumberText.value?_ofNat n)
  | _ => exact hd.elim

theorem readsBack_text : text.ReadsBack := by
  intro d hd
  cases d with
  | text s => exact congrArg (Option.map Datum.text) (Glyph.read?_ofText s)
  | _ => exact hd.elim

theorem readsBack_choice (names : List String) : (choice names).ReadsBack := by
  intro d hd
  cases d with
  | text s =>
    have hname : Node.choice? names (.text (Glyph.ofText s)) = some s := by
      rw [Node.choice?, Glyph.read?_ofText]
      exact Option.filter_some_pos (List.contains_iff_mem.mpr hd)
    exact congrArg (Option.map Datum.text) hname
  | _ => exact hd.elim

theorem readsBack_optional {inner : Schema} (hinner : inner.ReadsBack) :
    (optional inner).ReadsBack := by
  intro d hd
  cases habsent : d.isAbsent with
  | true =>
    cases Datum.eq_absent_of_isAbsent habsent
    rfl
  | false =>
    -- A value that is present is not written as `null`, as it would be absent then.
    have hread := hinner (hd.resolve_left (by simp [habsent]))
    have hwrite : (optional inner).write d = inner.write d := by
      rw [write, if_neg (by simp [habsent])]
    have hnull : (inner.write d).toNode ≠ .null := by
      intro hnull
      rw [hnull] at hread
      rw [isAbsent_of_interpret?_null hread] at habsent
      cases habsent
    rw [hwrite, interpret?_optional hnull]
    exact hread

theorem mapM_itemNodes {item : Schema} (hitem : item.ReadsBack) {items : List Datum}
    (h : ∀ d ∈ items, item.Fits d) :
    (Tree.itemNodes (items.map fun d => item.write d)).mapM item.interpret? = some items := by
  induction items with
  | nil => rfl
  | cons d items ih =>
    obtain ⟨hd, hitems⟩ := List.forall_mem_cons.mp h
    rw [List.map_cons, Tree.itemNodes, List.mapM_cons, hitem hd, ih hitems]
    rfl

theorem readsBack_list {item : Schema} (hitem : item.ReadsBack) : (list item).ReadsBack := by
  intro d hd
  cases d with
  | list items =>
    rw [write, Tree.toNode, interpret?, mapM_itemNodes hitem hd]
    rfl
  | _ => exact hd.elim

end Schema

/-! ## Records -/

/-- The values that are written, by the names of their fields. -/
def Field.given : List Field → List Datum → List (String × Datum)
  | .mk name _ _ omitted :: fields, value :: values =>
    if omitted && value.isAbsent then given fields values else (name, value) :: given fields values
  | _, _ => []

section
variable {name : String} {schema : Schema} {default : Option Datum} {omitted : Bool}
  {fields : List Field} {value : Datum} {values : List Datum}

theorem given_cons_of_omitted (h : (omitted && value.isAbsent) = true) :
    Field.given (.mk name schema default omitted :: fields) (value :: values) =
      Field.given fields values := by
  rw [Field.given, if_pos h]

theorem given_cons (h : ¬(omitted && value.isAbsent) = true) :
    Field.given (.mk name schema default omitted :: fields) (value :: values) =
      (name, value) :: Field.given fields values := by
  rw [Field.given, if_neg h]

end

/-- Each field is given at most once, and in the order of the fields. -/
theorem sublist_given (fields : List Field) (values : List Datum) :
    ((Field.given fields values).map Prod.fst).Sublist (fields.map Field.name) := by
  induction fields generalizing values with
  | nil => exact List.nil_sublist _
  | cons field fields ih =>
    obtain ⟨name, schema, default, omitted⟩ := field
    cases values with
    | nil => exact List.nil_sublist _
    | cons value values =>
      by_cases homitted : omitted && value.isAbsent
      · rw [given_cons_of_omitted homitted]
        exact (ih values).cons _
      · rw [given_cons homitted]
        exact (ih values).cons_cons name

/-- Only fields are given. -/
theorem lookup_given_eq_none {fields : List Field} {name : String}
    (h : name ∉ fields.map Field.name) (values : List Datum) :
    (Field.given fields values).lookup name = none := by
  rw [← Option.not_isSome_iff_eq_none, Facet.lookup_isSome_iff]
  intro hmem
  exact h ((sublist_given fields values).subset hmem)

section
variable {facets : List Facet} (hnodup : (facets.map Facet.name).Nodup)
include hnodup

/-- The members of a document give its fields the values that were written. -/
theorem given?_memberNodes {fields : List Field} {values : List Datum}
    (hfacets : ∀ p ∈ Field.facets fields, p ∈ facets) (hfields : Field.ReadBack fields)
    (hfit : Field.Fit fields values) :
    Facet.given? facets (Tree.memberNodes (Field.writeAll fields values)) =
      some (Field.given fields values) := by
  induction fields generalizing values with
  | nil =>
    cases values with
    | nil => rfl
    | cons value values => exact hfit.elim
  | cons field fields ih =>
    obtain ⟨name, schema, default, omitted⟩ := field
    cases values with
    | nil => exact hfit.elim
    | cons value values =>
      rw [Field.facets] at hfacets
      obtain ⟨hfacet, hfacets⟩ := List.forall_mem_cons.mp hfacets
      have hrest := ih hfacets hfields.2 hfit.2
      rw [Field.writeAll]
      by_cases homitted : omitted && value.isAbsent
      · rw [if_pos homitted, given_cons_of_omitted homitted]
        exact hrest
      · rw [if_neg homitted, given_cons homitted]
        have hmember : Facet.ofMember? facets
            (Glyph.ofText name, (schema.write value).toNode) = some [(name, value)] := by
          rw [Facet.ofMember?_of_mem hfacet hnodup (Glyph.read?_ofText name)]
          exact congrArg (Option.map _) (hfields.1 hfit.1)
        exact Facet.given?_cons_eq_some.mpr ⟨_, _, hmember, hrest, rfl⟩

end

theorem default_eq_absent {default : Option Datum} {omitted : Bool}
    (h : (!omitted || default.any Datum.isAbsent) = true) (homitted : omitted = true) :
    default = some .absent := by
  rw [homitted, Bool.not_true, Bool.false_or] at h
  cases default with
  | none => cases h
  | some d => rw [Datum.eq_absent_of_isAbsent h]

/-- Where a field was not given, its default is the value that was left out. -/
theorem values?_facets {fields : List Field} {values : List Datum} (hsound : Field.areSound fields)
    (hfit : Field.Fit fields values) (hnodup : (fields.map Field.name).Nodup)
    {known : List (String × Datum)} (hknown : ∀ name ∈ fields.map Field.name,
      known.lookup name = (Field.given fields values).lookup name) :
    Facet.values? known (Field.facets fields) = some values := by
  induction fields generalizing values with
  | nil =>
    cases values with
    | nil => rfl
    | cons value values => exact hfit.elim
  | cons field fields ih =>
    obtain ⟨name, schema, default, omitted⟩ := field
    cases values with
    | nil => exact hfit.elim
    | cons value values =>
      obtain ⟨hname, hnodup⟩ := List.nodup_cons.mp hnodup
      obtain ⟨hknown, hknowns⟩ := List.forall_mem_cons.mp hknown
      obtain ⟨hfield, hfields⟩ := Bool.and_eq_true_iff.mp hsound
      have hvalue : (known.lookup name).or default = some value ∧
          ∀ other ∈ fields.map Field.name,
            known.lookup other = (Field.given fields values).lookup other := by
        rw [Field.name] at hname hknown
        by_cases homitted : omitted && value.isAbsent
        · rw [given_cons_of_omitted homitted] at hknown hknowns
          obtain ⟨homitted, habsent⟩ := Bool.and_eq_true_iff.mp homitted
          refine ⟨?_, hknowns⟩
          rw [hknown, lookup_given_eq_none hname,
            default_eq_absent (Bool.and_eq_true_iff.mp hfield).2 homitted,
            Datum.eq_absent_of_isAbsent habsent]
          rfl
        · rw [given_cons homitted] at hknown hknowns
          refine ⟨?_, ?_⟩
          · rw [hknown, List.lookup_cons_self]
            rfl
          · intro other hother
            have hne : other ≠ name := by
              rintro rfl
              exact hname hother
            rw [hknowns other hother, List.lookup_cons, beq_false_of_ne hne]
      have hrest := ih hfields hfit.2 hnodup hvalue.2
      rw [Facet.values?] at hrest
      rw [Field.facets, Facet.values?, List.mapM_cons, hvalue.1, hrest]
      rfl

theorem Schema.readsBack_record {name : String} {fields : List Field}
    (hsound : Field.areSound fields) (hnodup : (fields.map Field.name).Nodup)
    (hfields : Field.ReadBack fields) : (Schema.record name fields).ReadsBack := by
  intro d hd
  cases d with
  | record values =>
    have hfacets : ((Field.facets fields).map Facet.name).Nodup := by
      rw [Field.map_name_facets]
      exact hnodup
    have hgiven := given?_memberNodes hfacets (fun _ hp => hp) hfields hd
    have hvalues := values?_facets hsound hd hnodup fun _ _ => rfl
    have hobject := Facet.ofObject?_eq_some.mpr
      ⟨_, hgiven, (sublist_given fields values).nodup hnodup, hvalues⟩
    exact congrArg (Option.map Datum.record) hobject
  | _ => exact hd.elim

/-! ## Schemas -/

mutual

theorem Schema.readsBack : ∀ {s : Schema}, s.isSound → s.ReadsBack
  | .number, _ => Schema.readsBack_number
  | .text, _ => Schema.readsBack_text
  | .choice names, _ => Schema.readsBack_choice names
  | .list _, h => Schema.readsBack_list (Schema.readsBack h)
  | .optional _, h => Schema.readsBack_optional (Schema.readsBack h)
  | .record _ _, h =>
    have ⟨hnodup, hfields⟩ := Bool.and_eq_true_iff.mp h
    Schema.readsBack_record hfields (of_decide_eq_true hnodup) (Field.readBack hfields)

theorem Field.readBack : ∀ {fields : List Field}, Field.areSound fields → Field.ReadBack fields
  | [], _ => trivial
  | .mk _ _ _ _ :: _, h =>
    have ⟨hfield, hfields⟩ := Bool.and_eq_true_iff.mp h
    ⟨Schema.readsBack (Bool.and_eq_true_iff.mp hfield).1, Field.readBack hfields⟩

end

/-- **A datum is loaded from any text that writes its document**, whatever the gaps between the
tokens. -/
theorem Schema.load_of_writtenDocument {s : Schema} (hs : s.isSound) {d : Datum} (hd : s.Fits d)
    {text : String} (htext : WrittenDocument (s.write d).toNode text.toList) :
    s.load text = .ok d :=
  (s.load_eq_ok_iff htext d).mpr (Schema.readsBack hs hd)

end InterlockLadder
