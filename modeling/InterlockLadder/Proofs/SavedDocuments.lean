import InterlockLadder.Document.Load
import InterlockLadder.Proofs.ReadBack

/-! Saved documents. What was saved is loaded again, in either form, for listings, options and
plants (`saved_documents_reload`). -/

namespace InterlockLadder

/-- The datum stands for a value: it fits the schema, and the value is read off it. -/
structure Represents {α : Type} (s : Schema) (ofDatum : Datum → α) (d : Datum) (a : α) :
    Prop where
  fits : s.Fits d
  eq : ofDatum d = a

namespace Represents

theorem number (n : UInt32) : Represents .number Datum.toNumber (.number n) n :=
  ⟨trivial, rfl⟩

theorem text (s : String) : Represents .text Datum.toText (.text s) s :=
  ⟨trivial, rfl⟩

variable {α : Type} {s : Schema} {ofDatum : Datum → α} {toDatum : α → Datum}

theorem list {as : List α} (h : ∀ a ∈ as, Represents s ofDatum (toDatum a) a) :
    Represents (.list s) (Datum.toList ofDatum) (.ofList toDatum as) as where
  fits d hd := by
    obtain ⟨a, ha, rfl⟩ := List.mem_map.mp hd
    exact (h a ha).fits
  eq := by
    rw [Datum.ofList, Datum.toList, List.map_map]
    exact (List.map_congr_left fun a ha => (h a ha).eq).trans (List.map_id as)

/-- An optional value, if no value is written as absent. -/
theorem option (hpresent : ∀ a, (toDatum a).isAbsent = false)
    (h : ∀ a, Represents s ofDatum (toDatum a) a) (a? : Option α) :
    Represents (.optional s) (Datum.toOption ofDatum) (.ofOption toDatum a?) a? := by
  cases a? with
  | none => exact ⟨.inl rfl, rfl⟩
  | some a =>
    refine ⟨.inr (h a).fits, ?_⟩
    rw [Datum.ofOption, Datum.toOption, (h a).eq]
    intro habsent
    have hpresent := hpresent a
    rw [habsent] at hpresent
    cases hpresent

theorem optionalText (s? : Option String) :
    Represents (.optional .text) (Datum.toOption Datum.toText) (.ofOption .text s?) s? :=
  option (fun _ => rfl) text s?

theorem optionalNumber (n? : Option UInt32) :
    Represents (.optional .number) (Datum.toOption Datum.toNumber) (.ofOption .number n?) n? :=
  option (fun _ => rfl) number n?

end Represents

open Represents (optionalText optionalNumber)

/-! ## Plants -/

theorem Polarity.represents (p : Polarity) : Represents schema ofDatum p.toDatum p := by
  cases p with
  | on => exact ⟨.head _, by decide⟩
  | off => exact ⟨.tail _ (.head _), by decide⟩

theorem Direction.represents (d : Direction) : Represents schema ofDatum d.toDatum d := by
  cases d with
  | both => exact ⟨.head _, by decide⟩
  | forward => exact ⟨.tail _ (.head _), by decide⟩
  | backward => exact ⟨.tail _ (.tail _ (.head _)), by decide⟩

theorem RunMode.represents (m : RunMode) : Represents schema ofDatum m.toDatum m := by
  cases m with
  | auto => exact ⟨.head _, by decide⟩
  | manual => exact ⟨.tail _ (.head _), by decide⟩
  | always => exact ⟨.tail _ (.tail _ (.head _)), by decide⟩

theorem ProcessRange.represents (r : ProcessRange) : Represents schema ofDatum r.toDatum r :=
  ⟨⟨trivial, trivial, trivial⟩, rfl⟩

theorem Gate.Kind.represents (k : Kind) :
    Represents Kind.schema Kind.ofDatum (Kind.toDatum k) k := by
  cases k with
  | io => exact ⟨.head _, by decide⟩
  | device => exact ⟨.tail _ (.head _), by decide⟩

theorem Gate.represents (g : Gate) : Represents schema ofDatum g.toDatum g where
  fits := ⟨g.kind.represents.fits, (optionalText g.ioAddress).fits,
    (optionalText g.deviceAddress).fits, g.polarity.represents.fits, trivial⟩
  eq := by
    simp only [toDatum, ofDatum, g.kind.represents.eq, (optionalText _).eq,
      g.polarity.represents.eq]

theorem IoPoint.represents (p : IoPoint) : Represents schema ofDatum p.toDatum p where
  fits := ⟨trivial, trivial, p.polarity.represents.fits, trivial⟩
  eq := by
    simp only [toDatum, ofDatum, p.polarity.represents.eq]
    rfl

/-- The kind is not an unrecognized one with the tag of a recognized one. -/
def Condition.Kind.IsCanonical (kind : Condition.Kind) : Prop :=
  ∀ tag, kind = .unrecognized tag → tag ∉ recognized.map Condition.Kind.tag

/-- A canonical kind is the one that its tag is read as. -/
theorem Condition.Kind.ofTag_tag {kind : Condition.Kind} (h : kind.IsCanonical) :
    ofTag kind.tag = kind := by
  cases kind with
  | unrecognized n =>
    have hnone : recognized.find? (fun kind => kind.tag = n) = none := by
      refine List.find?_eq_none.mpr fun kind hkind => ?_
      exact fun htag => h n rfl (of_decide_eq_true htag ▸ List.mem_map_of_mem hkind)
    change (recognized.find? fun kind => kind.tag = n).getD (unrecognized n) = unrecognized n
    rw [hnone]
    rfl
  | _ => rfl

/-- Every tag is read as a canonical kind. -/
theorem Condition.Kind.isCanonical_ofTag (n : UInt32) : (ofTag n).IsCanonical := by
  intro tag hkind hmem
  rw [ofTag] at hkind
  cases hfind : recognized.find? fun kind => kind.tag = n with
  | none =>
    rw [hfind] at hkind
    cases hkind
    obtain ⟨kind, hrecognized, htag⟩ := List.mem_map.mp hmem
    exact List.find?_eq_none.mp hfind kind hrecognized (decide_eq_true htag)
  | some kind =>
    rw [hfind] at hkind
    cases hkind
    have hrecognized := List.mem_of_find?_eq_some hfind
    simp [recognized] at hrecognized

theorem Condition.represents {c : Condition} (h : c.kind.IsCanonical) :
    Represents schema ofDatum c.toDatum c where
  fits := ⟨trivial, trivial, trivial, c.polarity.represents.fits, (optionalText c.device).fits,
    (optionalNumber c.interlockNumber).fits, (optionalText c.reference).fits,
    (Represents.list fun p _ => IoPoint.represents p).fits, (optionalText c.comment1).fits,
    (optionalText c.comment2).fits, trivial⟩
  eq := by
    simp only [toDatum, ofDatum, Datum.toNumber, Condition.Kind.ofTag_tag h,
      c.polarity.represents.eq, (optionalText _).eq, (optionalNumber _).eq,
      (Represents.list fun p _ => IoPoint.represents p).eq]

theorem Interlock.represents {i : Interlock} (h : ∀ d ∈ i.conditions, d.kind.IsCanonical) :
    Represents schema ofDatum i.toDatum i where
  fits := ⟨trivial, trivial, (optionalText i.name).fits, i.direction.represents.fits,
    (Represents.option (fun _ => rfl) RunMode.represents i.runMode).fits,
    (Represents.option (fun _ => rfl) ProcessRange.represents i.processRange).fits,
    (Represents.option (fun _ => rfl) Gate.represents i.gate).fits,
    (Represents.list fun d hd => Condition.represents (h d hd)).fits, trivial⟩
  eq := by
    simp only [toDatum, ofDatum, (optionalText _).eq, i.direction.represents.eq,
      (Represents.option (fun _ => rfl) RunMode.represents _).eq,
      (Represents.option (fun _ => rfl) ProcessRange.represents _).eq,
      (Represents.option (fun _ => rfl) Gate.represents _).eq,
      (Represents.list fun d hd => Condition.represents (h d hd)).eq]
    rfl

theorem CylinderName.represents (n : CylinderName) : Represents schema ofDatum n.toDatum n :=
  ⟨⟨trivial, trivial, trivial, trivial⟩, rfl⟩

theorem Cylinder.represents {c : Cylinder}
    (h : ∀ i ∈ c.interlocks, ∀ d ∈ i.conditions, d.kind.IsCanonical) :
    Represents schema ofDatum c.toDatum c where
  fits := ⟨trivial, c.name.represents.fits, trivial, trivial, (optionalNumber c.plc).fits,
    (Represents.list fun i hi => Interlock.represents (h i hi)).fits, trivial⟩
  eq := by
    simp only [toDatum, ofDatum, c.name.represents.eq, (optionalNumber _).eq,
      (Represents.list fun i hi => Interlock.represents (h i hi)).eq]
    rfl

theorem Sensor.represents (s : Sensor) : Represents schema ofDatum s.toDatum s where
  fits := ⟨trivial, (optionalText s.altAddress).fits, trivial, (optionalNumber s.plc).fits,
    trivial⟩
  eq := by
    simp only [toDatum, ofDatum, (optionalText _).eq, (optionalNumber _).eq]
    rfl

theorem ProcessStep.represents (s : ProcessStep) : Represents schema ofDatum s.toDatum s :=
  ⟨⟨trivial, trivial, trivial⟩, rfl⟩

namespace Plant

/-- All conditions have canonical kinds. -/
def HasCanonicalKinds (p : Plant) : Prop :=
  ∀ c ∈ p.cylinders, ∀ i ∈ c.interlocks, ∀ d ∈ i.conditions, d.kind.IsCanonical

theorem represents {p : Plant} (h : p.HasCanonicalKinds) :
    Represents schema ofDatum p.toDatum p where
  fits := ⟨(Represents.list fun c hc => Cylinder.represents (h c hc)).fits,
    (Represents.list fun s _ => Sensor.represents s).fits,
    (Represents.list fun s _ => ProcessStep.represents s).fits, trivial⟩
  eq := by
    simp only [toDatum, ofDatum, (Represents.list fun c hc => Cylinder.represents (h c hc)).eq,
      (Represents.list fun s _ => Sensor.represents s).eq,
      (Represents.list fun s _ => ProcessStep.represents s).eq]

theorem isSound_schema : schema.isSound := by
  decide

end Plant

/-! ### Kinds of a plant that was loaded -/

theorem Datum.exists_of_mem_toList {α : Type} {f : Datum → α} {d : Datum} {a : α}
    (h : a ∈ d.toList f) : ∃ item, f item = a := by
  cases d with
  | list items =>
    obtain ⟨item, -, rfl⟩ := List.mem_map.mp h
    exact ⟨item, rfl⟩
  | _ => cases h

theorem Condition.isCanonical_ofDatum (d : Datum) : (ofDatum d).kind.IsCanonical := by
  unfold ofDatum
  split
  · exact Kind.isCanonical_ofTag _
  · exact Kind.isCanonical_ofTag 0

theorem Interlock.isCanonical_ofDatum (d : Datum) :
    ∀ c ∈ (ofDatum d).conditions, c.kind.IsCanonical := by
  unfold ofDatum
  split
  · intro c hc
    obtain ⟨item, rfl⟩ := Datum.exists_of_mem_toList hc
    exact Condition.isCanonical_ofDatum item
  · exact List.forall_mem_nil _

theorem Cylinder.isCanonical_ofDatum (d : Datum) :
    ∀ i ∈ (ofDatum d).interlocks, ∀ c ∈ i.conditions, c.kind.IsCanonical := by
  unfold ofDatum
  split
  · intro i hi
    obtain ⟨item, rfl⟩ := Datum.exists_of_mem_toList hi
    exact Interlock.isCanonical_ofDatum item
  · exact List.forall_mem_nil _

theorem Plant.hasCanonicalKinds_ofDatum (d : Datum) : (ofDatum d).HasCanonicalKinds := by
  unfold ofDatum
  split
  · intro c hc
    obtain ⟨item, rfl⟩ := Datum.exists_of_mem_toList hc
    exact Cylinder.isCanonical_ofDatum item
  · exact List.forall_mem_nil _

/-! ## Options and listings -/

theorem SensorNaming.represents (n : SensorNaming) : Represents schema ofDatum n.toDatum n :=
  ⟨⟨trivial, trivial, trivial⟩, rfl⟩

theorem Options.represents (o : Options) : Represents schema ofDatum o.toDatum o :=
  ⟨⟨trivial, trivial, trivial, trivial, trivial, o.alarmSensor.represents.fits,
    o.memorySensor.represents.fits, trivial⟩, rfl⟩

theorem Options.isSound_schema : schema.isSound := by
  decide

theorem Row.represents (row : Row) : Represents schema ofDatum row.toDatum row where
  fits := ⟨trivial, trivial, trivial, trivial, (optionalText row.statement).fits, trivial⟩
  eq := by
    simp only [toDatum, ofDatum, (optionalText _).eq]
    rfl

theorem Row.isSound_listSchema : listSchema.isSound := by
  decide

/-! ## Loading and saving -/

theorem load_eq_ok_iff {α : Type} {s : Schema} {ofDatum : Datum → α} {text : String} {a : α} :
    load s ofDatum text = .ok a ↔ ∃ d, s.load text = .ok d ∧ ofDatum d = a := by
  rw [load]
  cases s.load text <;> simp

/-- What holds of all data that are read off holds of all that is loaded. -/
theorem of_load_eq_ok {α : Type} {s : Schema} {ofDatum : Datum → α} {valid : α → Prop}
    (hvalid : ∀ d, valid (ofDatum d)) {text : String} {a : α}
    (h : load s ofDatum text = .ok a) : valid a := by
  obtain ⟨d, -, rfl⟩ := load_eq_ok_iff.mp h
  exact hvalid d

/-- Saved documents of valid values are loaded as these values. What was loaded is valid, so that
loading and saving it again changes neither the value nor its document. -/
structure Reloads {α : Type} (load : String → Except Malformed α) (save : Json.Form → α → String)
    (valid : α → Prop) : Prop where
  load_save : ∀ form a, valid a → load (save form a) = .ok a
  load_save_load : ∀ form text a, load text = .ok a → load (save form a) = load text
  save_load_save : ∀ form text a, load text = .ok a →
    (load (save form a)).map (save form) = .ok (save form a)

theorem reloads_of_represents {α : Type} {s : Schema} {ofDatum : Datum → α} {toDatum : α → Datum}
    {valid : α → Prop} (hs : s.isSound)
    (hrepresents : ∀ a, valid a → Represents s ofDatum (toDatum a) a)
    (hvalid : ∀ d, valid (ofDatum d)) :
    Reloads (load s ofDatum) (fun form a => (s.write (toDatum a)).render form) valid := by
  have hload : ∀ form a, valid a →
      load s ofDatum ((s.write (toDatum a)).render form) = .ok a := by
    intro form a ha
    have hdatum := hrepresents a ha
    have hread := Schema.load_of_writtenDocument hs hdatum.fits (Json.Tree.writtenDocument form _)
    exact load_eq_ok_iff.mpr ⟨_, hread, hdatum.eq⟩
  refine ⟨hload, fun form text a ha => ?_, fun form text a ha => ?_⟩
  · rw [ha, hload form a (of_load_eq_ok hvalid ha)]
  · rw [hload form a (of_load_eq_ok hvalid ha)]
    rfl

theorem Row.reloads : Reloads listOfJson listToJson fun _ => True :=
  reloads_of_represents isSound_listSchema (fun _ _ => Represents.list fun row _ => row.represents)
    fun _ => trivial

theorem Options.reloads : Reloads ofJson toJson fun _ => True :=
  reloads_of_represents isSound_schema (fun o _ => o.represents) fun _ => trivial

theorem Plant.reloads : Reloads ofJson toJson HasCanonicalKinds :=
  reloads_of_represents isSound_schema (fun _ => represents) hasCanonicalKinds_ofDatum

/-- **Loading undoes saving**, in either form, for every listing, all options, and every plant
whose kinds are canonical. -/
theorem saved_documents_reload :
    Reloads Row.listOfJson Row.listToJson (fun _ => True) ∧
      Reloads Options.ofJson Options.toJson (fun _ => True) ∧
      Reloads Plant.ofJson Plant.toJson Plant.HasCanonicalKinds :=
  ⟨Row.reloads, Options.reloads, Plant.reloads⟩

/-- A condition whose texts have to be escaped, of a kind that is not recognized. -/
def quotedCondition : Condition where
  id := 4294967295
  number := 0
  kind := .unrecognized 7
  polarity := .off
  device := some "\"M1\\\n"
  interlockNumber := none
  reference := none
  ios := [⟨1, "\x7f", .on⟩]
  comment1 := some ""
  comment2 := some "\x01/é𝄞"

def quotedPlant : Plant where
  cylinders := [⟨1, ⟨"CY", "001", ""⟩, "M", 1000, none,
    [⟨1, 1, none, .backward, some .always, some ⟨1, 2⟩, some ⟨.device, none, some "\t", .off⟩,
      [quotedCondition]⟩]⟩]
  sensors := [⟨"X0", some "\r", "\x08", some 0⟩]
  processSteps := []

theorem reload_quotedPlant : quotedPlant.HasCanonicalKinds ∧
    ∀ form, Plant.ofJson (quotedPlant.toJson form) = .ok quotedPlant := by
  have hkinds : quotedPlant.HasCanonicalKinds := by
    intro c hc i hi d hd tag htag
    obtain rfl := List.mem_singleton.mp hc
    obtain rfl := List.mem_singleton.mp hi
    obtain rfl := List.mem_singleton.mp hd
    cases htag
    decide
  exact ⟨hkinds, fun form => saved_documents_reload.2.2.load_save form quotedPlant hkinds⟩

end InterlockLadder
