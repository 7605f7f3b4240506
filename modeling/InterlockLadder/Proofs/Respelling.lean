import InterlockLadder.Proofs.AcceptedTexts
import InterlockLadder.Proofs.SavedDocuments
import Mathlib.Logic.Relation

/-! What a document does not depend on. The members of a record may change places, members that name
no field may be there or not, and a field may be given its default or be left out (`Edit`). None of
this changes what a document means (`Edit.interpret?_eq`), nor do the gaps in its text, so that it
is loaded as before (`documents_load_alike`). -/

namespace InterlockLadder

open Json Reading

/-! ## Edits -/

/-- One change to how the value of a schema is written. -/
inductive Edit : Schema → Node → Node → Prop
  /-- The members of a record change places. -/
  | permute {name : String} {fields : List Field} {members members' : List (List Glyph × Node)}
      (h : members.Perm members') :
      Edit (.record name fields) (.object members) (.object members')
  /-- A record gets a member that names none of its fields, with any value. -/
  | ignored {name : String} {fields : List Field} (members : List (List Glyph × Node))
      {key : List Glyph} {other : String} (hkey : Glyph.read? key = some other)
      (hother : other ∉ fields.map Field.name) (value : Node) :
      Edit (.record name fields) (.object members) (.object ((key, value) :: members))
  /-- A record gets a member for a field that was left out, with the default as its value. -/
  | supply {name : String} {fields : List Field} {members : List (List Glyph × Node)}
      {other : String} {schema : Schema} {d : Datum} {omitted : Bool}
      (hfield : .mk other schema (some d) omitted ∈ fields) {key : List Glyph}
      (hkey : Glyph.read? key = some other)
      (habsent : ∀ member ∈ members, Glyph.read? member.1 ≠ some other) {value : Node}
      (hvalue : schema.interpret? value = some d) :
      Edit (.record name fields) (.object members) (.object ((key, value) :: members))
  /-- The value of a field is edited. -/
  | member {name : String} {fields : List Field} (members : List (List Glyph × Node))
      {other : String} {schema : Schema} {default : Option Datum} {omitted : Bool}
      (hfield : .mk other schema default omitted ∈ fields) {key : List Glyph}
      (hkey : Glyph.read? key = some other) {value value' : Node} (h : Edit schema value value') :
      Edit (.record name fields) (.object ((key, value) :: members))
        (.object ((key, value') :: members))
  /-- An item of a list is edited. -/
  | item {schema : Schema} (front back : List Node) {n n' : Node} (h : Edit schema n n') :
      Edit (.list schema) (.list (front ++ n :: back)) (.list (front ++ n' :: back))
  /-- A value that may be absent is edited. -/
  | present {schema : Schema} {n n' : Node} (h : Edit schema n n') :
      Edit (.optional schema) n n'

/-- Any number of edits lead from one value to the other. Each of them is made or undone. -/
def Respelled (s : Schema) : Node → Node → Prop :=
  Relation.EqvGen (Edit s)

/-! ## What edits leave alone -/

namespace Facet

variable {facets : List Facet} {members members' : List (List Glyph × Node)}

theorem exists_given?_of_perm (hperm : members.Perm members') {given : List (String × Datum)}
    (h : given? facets members = some given) :
    ∃ given', given? facets members' = some given' ∧ given.Perm given' := by
  induction hperm generalizing given with
  | nil => exact ⟨given, h, .refl given⟩
  | cons member _ ih =>
    obtain ⟨front, back, hfront, hback, rfl⟩ := given?_cons_eq_some.mp h
    obtain ⟨back', hback', hperm⟩ := ih hback
    exact ⟨front ++ back', given?_cons_eq_some.mpr ⟨front, back', hfront, hback', rfl⟩,
      hperm.append_left front⟩
  | swap member member' members =>
    obtain ⟨front, _, hfront, htail, rfl⟩ := given?_cons_eq_some.mp h
    obtain ⟨mid, back, hmid, hback, rfl⟩ := given?_cons_eq_some.mp htail
    have hrest : given? facets (member' :: members) = some (front ++ back) :=
      given?_cons_eq_some.mpr ⟨front, back, hfront, hback, rfl⟩
    exact ⟨mid ++ (front ++ back), given?_cons_eq_some.mpr ⟨mid, _, hmid, hrest, rfl⟩,
      List.perm_append_comm_assoc front mid back⟩
  | trans _ _ ih ih' =>
    obtain ⟨given', hgiven', hperm⟩ := ih h
    obtain ⟨given'', hgiven'', hperm'⟩ := ih' hgiven'
    exact ⟨given'', hgiven'', hperm.trans hperm'⟩

/-- The order of the members does not matter. -/
theorem ofObject?_of_perm (hperm : members.Perm members') :
    ofObject? facets members = ofObject? facets members' := by
  have hof : ∀ {members members' : List (List Glyph × Node)}, members.Perm members' →
      ∀ {values}, ofObject? facets members = some values →
        ofObject? facets members' = some values := by
    intro members members' hperm values h
    obtain ⟨known, hknown, hnodup, hvalues⟩ := ofObject?_eq_some.mp h
    obtain ⟨known', hknown', hperm⟩ := exists_given?_of_perm hperm hknown
    have heq := values?_of_perm hperm hnodup facets
    exact ofObject?_eq_some.mpr
      ⟨known', hknown', (hperm.map Prod.fst).nodup hnodup, heq.symm.trans hvalues⟩
  exact Option.ext fun values => ⟨hof hperm, hof hperm.symm⟩

/-- A member that gives nothing does not matter. -/
theorem ofObject?_cons_of_nothing {member : List Glyph × Node}
    (h : ofMember? facets member = some []) :
    ofObject? facets (member :: members) = ofObject? facets members := by
  have hgiven : given? facets (member :: members) = given? facets members := by
    rw [given?_cons, h, Option.bind_some]
    exact Option.map_id'
  rw [ofObject?, ofObject?, hgiven]

/-- Two members that give the same make no difference. -/
theorem ofObject?_cons_congr {member member' : List Glyph × Node}
    (h : ofMember? facets member = ofMember? facets member') :
    ofObject? facets (member :: members) = ofObject? facets (member' :: members) := by
  rw [ofObject?, ofObject?, given?_cons, given?_cons, h]

theorem key_of_mem_ofMember? {member : List Glyph × Node} {given : List (String × Datum)}
    (h : ofMember? facets member = some given) {name : String} (hname : name ∈ given.map Prod.fst) :
    Glyph.read? member.1 = some name := by
  obtain ⟨other, hother, h⟩ := Option.bind_eq_some_iff.mp h
  split at h
  · cases h
    cases hname
  · obtain ⟨d, -, rfl⟩ := Option.map_eq_some_iff.mp h
    obtain rfl := List.mem_singleton.mp hname
    exact hother

/-- Only what a member names is given. -/
theorem exists_of_mem_given? {known : List (String × Datum)}
    (h : given? facets members = some known) {name : String} (hname : name ∈ known.map Prod.fst) :
    ∃ member ∈ members, Glyph.read? member.1 = some name := by
  induction members generalizing known with
  | nil =>
    cases h
    cases hname
  | cons member members ih =>
    obtain ⟨front, back, hfront, hback, rfl⟩ := given?_cons_eq_some.mp h
    rw [List.map_append, List.mem_append] at hname
    obtain hname | hname := hname
    · exact ⟨member, List.mem_cons_self, key_of_mem_ofMember? hfront hname⟩
    · obtain ⟨member', hmember', hkey⟩ := ih hback hname
      exact ⟨member', .tail _ hmember', hkey⟩

section
variable {p : Facet} (hp : p ∈ facets) (hnodup : (facets.map Facet.name).Nodup)
  {key : List Glyph} (hkey : Glyph.read? key = some p.name)
include hp hnodup hkey

/-- A member that gives a field its default does not matter. -/
theorem ofObject?_cons_of_default {d : Datum} (hdefault : p.default = some d) {value : Node}
    (hvalue : p.value? value = some d)
    (habsent : ∀ member ∈ members, Glyph.read? member.1 ≠ some p.name) :
    ofObject? facets ((key, value) :: members) = ofObject? facets members := by
  rw [ofObject?, ofObject?, given?_cons, ofMember?_of_mem hp hnodup hkey, hvalue]
  cases hgiven : given? facets members with
  | none => rfl
  | some known =>
    have hnew : p.name ∉ known.map Prod.fst := by
      intro hmem
      obtain ⟨member, hmember, hname⟩ := exists_of_mem_given? hgiven hmem
      exact habsent member hmember hname
    have hknown : (((p.name, d) :: known).map Prod.fst).Nodup ↔ (known.map Prod.fst).Nodup :=
      List.nodup_cons.trans (and_iff_right hnew)
    have hvalues : values? ((p.name, d) :: known) facets = values? known facets := by
      refine values?_congr fun other hother => ?_
      rw [List.lookup_cons]
      by_cases hname : other.name = p.name
      · have hfound := find?_of_nodup hnodup hother
        rw [hname, find?_of_nodup hnodup hp] at hfound
        obtain rfl := Option.some.inj hfound
        have hnone : known.lookup p.name = none :=
          Option.not_isSome_iff_eq_none.mp fun hsome => hnew (lookup_isSome_iff.mp hsome)
        rw [beq_self_eq_true, hnone, hdefault]
        rfl
      · rw [beq_false_of_ne hname]
    simp only [Option.map_some, Option.bind_some, Option.bind_eq_bind, List.singleton_append,
      hknown, hvalues]

end

end Facet

namespace Field

variable {fields : List Field} {name : String} {schema : Schema} {default : Option Datum}
  {omitted : Bool}

theorem isSound_of_mem (hfields : areSound fields) (h : .mk name schema default omitted ∈ fields) :
    schema.isSound := by
  induction fields with
  | nil => cases h
  | cons field fields ih =>
    obtain ⟨other, schema', default', omitted'⟩ := field
    obtain ⟨hfield, hfields⟩ := Bool.and_eq_true_iff.mp hfields
    obtain h | h := List.mem_cons.mp h
    · cases h
      exact (Bool.and_eq_true_iff.mp hfield).1
    · exact ih hfields h

end Field

namespace Schema

/-- The fields of a sound record tell their names apart. -/
theorem isSound_record {name : String} {fields : List Field} (h : (record name fields).isSound) :
    ((Field.facets fields).map Facet.name).Nodup ∧ Field.areSound fields := by
  obtain ⟨hnodup, hfields⟩ := Bool.and_eq_true_iff.mp h
  have hnodup := of_decide_eq_true hnodup
  rw [← Field.map_name_facets] at hnodup
  exact ⟨hnodup, hfields⟩

end Schema

namespace Edit

variable {s : Schema} {n n' : Node}

/-- Only lists and objects are edited. -/
theorem ne_null (h : Edit s n n') : n ≠ .null ∧ n' ≠ .null := by
  induction h with
  | present _ ih => exact ih
  | _ => exact ⟨Node.noConfusion, Node.noConfusion⟩

/-- **An edit does not change what a document means**, nor whether it means anything. -/
theorem interpret?_eq (h : Edit s n n') (hs : s.isSound) : s.interpret? n = s.interpret? n' := by
  induction h with
  | permute hperm => rw [Schema.interpret?, Schema.interpret?, Facet.ofObject?_of_perm hperm]
  | @ignored name fields members key other hkey hother value =>
    have hmember : Facet.ofMember? (Field.facets fields) (key, value) = some [] := by
      have hfind : (Field.facets fields).find? (·.name = other) = none := by
        refine List.find?_eq_none.mpr fun p hp hname => hother ?_
        rw [← Field.map_name_facets, ← of_decide_eq_true hname]
        exact List.mem_map_of_mem hp
      simp only [Facet.ofMember?, hkey, Option.bind_eq_bind, Option.bind_some, hfind]
    rw [Schema.interpret?, Schema.interpret?, Facet.ofObject?_cons_of_nothing hmember]
  | supply hfield hkey habsent hvalue =>
    obtain ⟨hnodup, -⟩ := Schema.isSound_record hs
    rw [Schema.interpret?, Schema.interpret?, Facet.ofObject?_cons_of_default
      (Field.mem_facets hfield) hnodup hkey rfl hvalue habsent]
  | @member name fields members other schema default omitted hfield key hkey value value' h ih =>
    obtain ⟨hnodup, hfields⟩ := Schema.isSound_record hs
    have hfacet := Field.mem_facets hfield
    have hmember : Facet.ofMember? (Field.facets fields) (key, value) =
        Facet.ofMember? (Field.facets fields) (key, value') := by
      rw [Facet.ofMember?_of_mem hfacet hnodup hkey, Facet.ofMember?_of_mem hfacet hnodup hkey]
      exact congrArg (Option.map _) (ih (Field.isSound_of_mem hfields hfield))
    rw [Schema.interpret?, Schema.interpret?, Facet.ofObject?_cons_congr hmember]
  | item front back h ih =>
    rw [Schema.interpret?, Schema.interpret?, List.mapM_append, List.mapM_append, List.mapM_cons,
      List.mapM_cons, ih hs]
  | present h ih =>
    obtain ⟨hn, hn'⟩ := h.ne_null
    rw [Schema.interpret?_optional hn, Schema.interpret?_optional hn', ih hs]

end Edit

/-- Any number of edits do not either. -/
theorem Respelled.interpret?_eq {s : Schema} {n n' : Node} (h : Respelled s n n')
    (hs : s.isSound) : s.interpret? n = s.interpret? n' := by
  induction h with
  | rel n n' h => exact h.interpret?_eq hs
  | refl n => rfl
  | symm n n' _ ih => exact ih.symm
  | trans n n' n'' _ _ ih ih' => exact ih.trans ih'

/-! ## What a record says -/

/-- The value of the first member with the name. -/
def memberOf? (members : List (List Glyph × Node)) (name : String) : Option Node :=
  (members.find? fun member => Glyph.read? member.1 = some name).map Prod.snd

theorem memberOf?_cons (member : List Glyph × Node) (members : List (List Glyph × Node))
    (name : String) :
    memberOf? (member :: members) name =
      if Glyph.read? member.1 = some name then some member.2 else memberOf? members name := by
  rw [memberOf?, List.find?_cons]
  by_cases hkey : Glyph.read? member.1 = some name
  · rw [if_pos hkey, decide_eq_true hkey]
    rfl
  · rw [if_neg hkey, decide_eq_false hkey]
    rfl

/-- What is read from the member with the name, or the default if there is none. -/
def setting? {α : Type} (members : List (List Glyph × Node)) (name : String)
    (default : Option α) (read? : Node → Option α) : Option α :=
  (memberOf? members name).elim default read?

/-- The members set the field to the datum. -/
def Field.IsSet (members : List (List Glyph × Node)) : Field → Datum → Prop
  | mk name schema default _, d => setting? members name default schema.interpret? = some d

namespace Facet

variable {facets : List Facet} {members : List (List Glyph × Node)}

theorem or_lookup_given? {p : Facet} (hp : p ∈ facets) (hnodup : (facets.map Facet.name).Nodup)
    {known : List (String × Datum)} (h : given? facets members = some known) :
    (known.lookup p.name).or p.default = setting? members p.name p.default p.value? := by
  induction members generalizing known with
  | nil =>
    cases h
    rfl
  | cons member members ih =>
    obtain ⟨front, back, hfront, hback, rfl⟩ := given?_cons_eq_some.mp h
    rw [setting?, memberOf?_cons]
    by_cases hkey : Glyph.read? member.1 = some p.name
    · obtain ⟨key, value⟩ := member
      rw [ofMember?_of_mem hp hnodup hkey] at hfront
      obtain ⟨d, hd, rfl⟩ := Option.map_eq_some_iff.mp hfront
      rw [if_pos hkey, List.singleton_append, List.lookup_cons_self]
      exact hd.symm
    · have hskip : (front ++ back).lookup p.name = back.lookup p.name := by
        have hnone : front.lookup p.name = none :=
          Option.not_isSome_iff_eq_none.mp fun hsome =>
            hkey (key_of_mem_ofMember? hfront (lookup_isSome_iff.mp hsome))
        rw [List.lookup_append, hnone, Option.none_or]
      rw [if_neg hkey, hskip]
      exact ih hback

end Facet

theorem Field.forall₂_isSet {members : List (List Glyph × Node)} {known : List (String × Datum)}
    {fields : List Field} {values : List Datum}
    (hfields : ∀ p ∈ facets fields,
      (known.lookup p.name).or p.default = setting? members p.name p.default p.value?)
    (h : Facet.values? known (facets fields) = some values) :
    List.Forall₂ (IsSet members) fields values := by
  induction fields generalizing values with
  | nil =>
    cases h
    exact .nil
  | cons field fields ih =>
    obtain ⟨name, schema, default, omitted⟩ := field
    rw [facets] at h hfields
    rw [Facet.values?, List.mapM_cons] at h
    obtain ⟨hfield, hfields⟩ := List.forall_mem_cons.mp hfields
    obtain ⟨d, hd, h⟩ := Option.bind_eq_some_iff.mp h
    obtain ⟨ds, hds, h⟩ := Option.bind_eq_some_iff.mp h
    cases h
    exact .cons (hfield.symm.trans hd) (ih hfields hds)

/-- A record that is written as an object sets the fields that its members name, and no others. -/
theorem Schema.forall₂_isSet {name : String} {fields : List Field}
    (hs : (record name fields).isSound) {members : List (List Glyph × Node)} {d : Datum}
    (h : (record name fields).interpret? (.object members) = some d) :
    ∃ values, d = .record values ∧ List.Forall₂ (Field.IsSet members) fields values := by
  obtain ⟨values, hvalues, rfl⟩ := Option.map_eq_some_iff.mp h
  obtain ⟨known, hknown, -, hvalues⟩ := Facet.ofObject?_eq_some.mp hvalues
  obtain ⟨hnodup, -⟩ := isSound_record hs
  exact ⟨values, rfl, Field.forall₂_isSet
    (fun p hp => Facet.or_lookup_given? hp hnodup hknown) hvalues⟩

/-! ## Documents -/

/-- Only texts of values are loaded, and respelled ones alike. -/
structure LoadsAlike {α : Type} (s : Schema) (load : String → Except Malformed α) : Prop where
  written : ∀ ⦃text : String⦄ ⦃a : α⦄, load text = .ok a → ∃ n, WrittenDocument n text.toList
  respelled : ∀ ⦃n n' : Node⦄ ⦃text text' : String⦄, WrittenDocument n text.toList →
    WrittenDocument n' text'.toList → Respelled s n n' → ∀ a, load text = .ok a →
      load text' = .ok a

theorem loadsAlike_of_isSound {α : Type} {s : Schema} (hs : s.isSound) (ofDatum : Datum → α) :
    LoadsAlike s (load s ofDatum) where
  written := by
    intro text a ha
    obtain ⟨d, hd, -⟩ := load_eq_ok_iff.mp ha
    exact Schema.exists_writtenDocument hd
  respelled := by
    intro n n' text text' htext htext' h a ha
    obtain ⟨d, hd, rfl⟩ := load_eq_ok_iff.mp ha
    have hmeaning := (s.load_eq_ok_iff htext d).mp hd
    rw [h.interpret?_eq hs] at hmeaning
    exact load_eq_ok_iff.mpr ⟨d, (s.load_eq_ok_iff htext' d).mpr hmeaning, rfl⟩

/-- The naming that a value is. -/
def SensorNaming.ofNode? (n : Node) : Option SensorNaming :=
  (schema.interpret? n).map ofDatum

/-- The members of a naming set its texts. Without a member, a text is empty. -/
structure SensorNaming.IsSet (members : List (List Glyph × Node)) (naming : SensorNaming) :
    Prop where
  lead : setting? members "prefix" (some "") Node.text? = some naming.lead
  trail : setting? members "suffix" (some "") Node.text? = some naming.trail

/-- The members of the options set its fields. Without a member, a field keeps its own default. -/
structure Options.IsSet (members : List (List Glyph × Node)) (o : Options) : Prop where
  manualPauseSignal : setting? members "manual_pause_signal" (some default.manualPauseSignal)
    Node.text? = some o.manualPauseSignal
  autoPauseSignal : setting? members "auto_pause_signal" (some default.autoPauseSignal)
    Node.text? = some o.autoPauseSignal
  alwaysOnSignal : setting? members "always_on_signal" (some default.alwaysOnSignal)
    Node.text? = some o.alwaysOnSignal
  errorDevice : setting? members "error_device" (some default.errorDevice)
    Node.text? = some o.errorDevice
  literalMark : setting? members "literal_prefix" (some default.literalMark)
    Node.text? = some o.literalMark
  alarmSensor : setting? members "alarm_sensor" (some default.alarmSensor)
    SensorNaming.ofNode? = some o.alarmSensor
  memorySensor : setting? members "memory_sensor" (some default.memorySensor)
    SensorNaming.ofNode? = some o.memorySensor

section
variable {members : List (List Glyph × Node)}

theorem setting?_map {α : Type} {name : String} {default d : Datum} {read? : Node → Option Datum}
    (ofDatum : Datum → α) (h : setting? members name (some default) read? = some d) :
    setting? members name (some (ofDatum default)) (fun n => (read? n).map ofDatum) =
      some (ofDatum d) := by
  rw [setting?] at h ⊢
  cases hmember : memberOf? members name with
  | none =>
    rw [hmember] at h
    cases h
    rfl
  | some n =>
    rw [hmember] at h
    exact congrArg (Option.map ofDatum) h

theorem setting?_text {name default : String} {d : Datum}
    (h : setting? members name (some (.text default)) Schema.text.interpret? = some d) :
    setting? members name (some default) Node.text? = some d.toText := by
  have hread : (fun n => (Schema.text.interpret? n).map Datum.toText) = Node.text? := by
    funext n
    rw [Schema.interpret?, Option.map_map]
    exact Option.map_id'
  rw [← hread]
  exact setting?_map Datum.toText h

theorem SensorNaming.isSet_of_ofNode? {naming : SensorNaming}
    (h : ofNode? (.object members) = some naming) : naming.IsSet members := by
  obtain ⟨d, hd, rfl⟩ := Option.map_eq_some_iff.mp h
  obtain ⟨values, rfl, hvalues⟩ := Schema.forall₂_isSet (by decide) hd
  obtain _ | ⟨hlead, _ | ⟨htrail, _ | _⟩⟩ := hvalues
  exact ⟨setting?_text hlead, setting?_text htrail⟩

theorem Options.isSet_of_ofJson {text : String} {o : Options}
    (htext : WrittenDocument (.object members) text.toList) (h : ofJson text = .ok o) :
    o.IsSet members := by
  obtain ⟨d, hd, rfl⟩ := load_eq_ok_iff.mp h
  obtain ⟨values, rfl, hvalues⟩ :=
    Schema.forall₂_isSet isSound_schema ((schema.load_eq_ok_iff htext d).mp hd)
  obtain _ | ⟨h₁, _ | ⟨h₂, _ | ⟨h₃, _ | ⟨h₄, _ | ⟨h₅, _ | ⟨h₆, _ | ⟨h₇, _ | _⟩⟩⟩⟩⟩⟩⟩ := hvalues
  exact ⟨setting?_text h₁, setting?_text h₂, setting?_text h₃, setting?_text h₄, setting?_text h₅,
    setting?_map SensorNaming.ofDatum h₆, setting?_map SensorNaming.ofDatum h₇⟩

end

/-- **A document is loaded the same way however it spells its values**: each text that is loaded
writes a value, and plants, options and listings do not depend on the order of members, on members
that no record declares, on gaps, and on whether a default is given or left out. Options set exactly
the fields that they name, and each of their namings sets both of its texts, empty if they are not
given. -/
theorem documents_load_alike :
    LoadsAlike Plant.schema Plant.ofJson ∧ LoadsAlike Options.schema Options.ofJson ∧
      LoadsAlike Row.listSchema Row.listOfJson ∧
      (∀ ⦃members : List (List Glyph × Node)⦄ ⦃text : String⦄ ⦃o : Options⦄,
        WrittenDocument (.object members) text.toList → Options.ofJson text = .ok o →
          o.IsSet members) ∧
      (∀ ⦃members : List (List Glyph × Node)⦄ ⦃naming : SensorNaming⦄,
        SensorNaming.ofNode? (.object members) = some naming → naming.IsSet members) ∧
      SensorNaming.ofNode? (.object []) = some ⟨"", ""⟩ :=
  ⟨loadsAlike_of_isSound Plant.isSound_schema _, loadsAlike_of_isSound Options.isSound_schema _,
    loadsAlike_of_isSound Row.isSound_listSchema _, fun _ _ _ => Options.isSet_of_ofJson,
    fun _ _ => SensorNaming.isSet_of_ofNode?, rfl⟩

/-! ## A sensor, spelled twice -/

def sensorsKey : List Glyph := Glyph.ofText "sensors"

def addressMember : List Glyph × Node :=
  (Glyph.ofText "address", .text (Glyph.ofText "X5"))

def nameMember : List Glyph × Node :=
  (Glyph.ofText "name", .text (Glyph.ofText "S1"))

def controllerMember : List Glyph × Node :=
  (Glyph.ofText "plc_id", .null)

def noSteps : List Glyph × Node :=
  (Glyph.ofText "process_details", .list [])

def noteMember : List Glyph × Node :=
  (Glyph.ofText "note", .list [.boolean true])

def bareSensor : Node :=
  .object [(sensorsKey, .list [.object [addressMember, nameMember]])]

/-- The same sensor the other way round, with a controller that is `null`, behind members that are
empty or unknown. -/
def annotatedSensor : Node :=
  .object [noteMember, noSteps,
    (sensorsKey, .list [.object [controllerMember, nameMember, addressMember]])]

theorem respelled_annotatedSensor : Respelled Plant.schema bareSensor annotatedSensor := by
  have hsensors : .mk "sensors" (.list Sensor.schema) (some .empty) false ∈
      [Field.defaulted "cylinders" (.list Cylinder.schema) .empty,
        .defaulted "sensors" (.list Sensor.schema) .empty,
        .defaulted "process_details" (.list ProcessStep.schema) .empty] := .tail _ (.head _)
  have hkey : Glyph.read? sensorsKey = some "sensors" := Glyph.read?_ofText _
  have hswap : Edit Sensor.schema (.object [addressMember, nameMember])
      (.object [nameMember, addressMember]) := .permute (.swap _ _ _)
  have hcontroller : Edit Sensor.schema (.object [nameMember, addressMember])
      (.object [controllerMember, nameMember, addressMember]) :=
    .supply (.tail _ (.tail _ (.tail _ (.head _)))) (Glyph.read?_ofText _) (by decide) rfl
  have hsteps (members : List (List Glyph × Node))
      (habsent : ∀ member ∈ members, Glyph.read? member.1 ≠ some "process_details") :
      Edit Plant.schema (.object members) (.object (noSteps :: members)) :=
    .supply (.tail _ (.tail _ (.head _))) (Glyph.read?_ofText _) habsent rfl
  have hnote (members : List (List Glyph × Node)) :
      Edit Plant.schema (.object members) (.object (noteMember :: members)) :=
    .ignored members (Glyph.read?_ofText _) (by decide) _
  refine .trans _ _ _ (.rel _ _ (.member [] hsensors hkey (.item [] [] hswap))) ?_
  refine .trans _ _ _ (.rel _ _ (.member [] hsensors hkey (.item [] [] hcontroller))) ?_
  exact .trans _ _ _ (.rel _ _ (hsteps _ (by decide))) (.rel _ _ (hnote _))

/-- Each value has a text with the same gap at each place that may have one. -/
theorem writtenDocument_render (n : Node) {gap : List Char} (hgap : IsGap gap) :
    WrittenDocument n (String.ofList (n.render gap)).toList := by
  rw [String.toList_ofList]
  exact ⟨[], _, [], isGap_nil, written_render hgap n, isGap_nil, by simp⟩

/-- Options with a device for errors and a naming that says nothing. -/
def namedOptions : List (List Glyph × Node) :=
  [(Glyph.ofText "alarm_sensor", .object []),
    (Glyph.ofText "error_device", .text (Glyph.ofText "D9"))]

theorem load_annotatedSensor :
    Plant.ofJson (String.ofList (bareSensor.render [])) = .ok ⟨[], [⟨"X5", none, "S1", none⟩], []⟩ ∧
      Plant.ofJson (String.ofList (annotatedSensor.render [' '])) =
        .ok ⟨[], [⟨"X5", none, "S1", none⟩], []⟩ ∧
      ∃ o, Options.ofJson (String.ofList ((Node.object namedOptions).render [])) = .ok o ∧
        o.errorDevice = "D9" ∧ o.alarmSensor = ⟨"", ""⟩ ∧ o.literalMark = "K" := by
  have htext := writtenDocument_render bareSensor isGap_nil
  have hbare : Plant.ofJson (String.ofList (bareSensor.render [])) =
      .ok ⟨[], [⟨"X5", none, "S1", none⟩], []⟩ :=
    load_eq_ok_iff.mpr ⟨_, (Schema.load_eq_ok_iff _ htext _).mpr rfl, rfl⟩
  refine ⟨hbare, ?_, ?_⟩
  · exact documents_load_alike.1.respelled htext
      (writtenDocument_render annotatedSensor isGap_space)
      respelled_annotatedSensor _ hbare
  · have htext := writtenDocument_render (.object namedOptions) isGap_nil
    obtain ⟨o, ho⟩ : ∃ o, Options.ofJson (String.ofList ((Node.object namedOptions).render [])) =
        .ok o := ⟨_, load_eq_ok_iff.mpr ⟨_, (Schema.load_eq_ok_iff _ htext _).mpr rfl, rfl⟩⟩
    have hset := documents_load_alike.2.2.2.1 htext ho
    exact ⟨o, ho, Option.some.inj hset.errorDevice.symm, Option.some.inj hset.alarmSensor.symm,
      Option.some.inj hset.literalMark.symm⟩

end InterlockLadder
