import InterlockLadder.Proofs.AddressRange
import InterlockLadder.Proofs.Reordering

/-! What generation does not read. A condition reads as many IO points as its kind has use for, and
of each of them the address; a gate reads the address that its kind selects; a process range gates
nothing; and a cylinder sees the sensors of its own controller. Records that differ in nothing else
are read alike (`Condition.ReadAlike` and so on). They have the same items and the same diagnostics,
level by level, and so do plants (`Plant.generate_of_readAlike`). -/

namespace InterlockLadder

open Convention (sees)

/-! ## Records that are read alike -/

/-- The points differ in their polarity at most. -/
def IoPoint.ReadAlike (io io' : IoPoint) : Prop :=
  ∃ polarity, io' = { io with polarity }

namespace Condition

/-- The IO points that the kind of the condition has use for, in the order of their indices. -/
def pointsRead (d : Condition) : List IoPoint :=
  match d.kind with
  | .on | .onInverted | .limit | .interlockIo => d.sortedIos.take 1
  | .dualNegatedPair | .orDual => d.sortedIos.take 2
  | .orMany => d.sortedIos
  | .alarmSensor | .memorySensor | .interlockRef | .unrecognized _ => []

/-- The conditions differ at most in the IO points that their kind has no use for, in the polarity
of the others, and in the polarity and the reference, unless they refer to another interlock. -/
def ReadAlike (d d' : Condition) : Prop :=
  ∃ polarity reference ios, d' = { d with polarity, reference, ios } ∧
    (d.kind = .interlockRef → polarity = d.polarity ∧ reference = d.reference) ∧
    List.Forall₂ IoPoint.ReadAlike d.pointsRead d'.pointsRead

end Condition

namespace Gate

/-- The gate with another address in the field that its kind does not select. -/
def withUnread (g : Gate) (address : Option String) : Gate :=
  match g.kind with
  | .io => { g with deviceAddress := address }
  | .device => { g with ioAddress := address }

/-- The gates differ at most in the address that their kind does not select. -/
def ReadAlike (g g' : Gate) : Prop :=
  ∃ address, g' = g.withUnread address

end Gate

/-- The interlocks differ at most in their process range and within their gate and conditions. -/
def Interlock.ReadAlike (i i' : Interlock) : Prop :=
  ∃ processRange gate conditions, i' = { i with processRange, gate, conditions } ∧
    Option.Rel Gate.ReadAlike i.gate gate ∧
    List.Forall₂ Condition.ReadAlike i.conditions conditions

/-- The cylinders differ at most within their interlocks. -/
def Cylinder.ReadAlike (c c' : Cylinder) : Prop :=
  ∃ interlocks, c' = { c with interlocks } ∧
    List.Forall₂ Interlock.ReadAlike c.interlocks interlocks

namespace Plant

/-- Whether the sensor belongs to the controller of one of the cylinders. -/
def controls (p : Plant) (sensor : Sensor) : Bool :=
  p.cylinders.any fun c => c.plc.isSome && sensor.plc = c.plc

/-- The plants differ at most in their process steps, within their cylinders, and, if every cylinder
has a controller, in the sensors that belong to none of these. -/
structure ReadAlike (p p' : Plant) : Prop where
  cylinders : List.Forall₂ Cylinder.ReadAlike p.cylinders p'.cylinders
  sensors : p.sensors = p'.sensors ∨ (∀ c ∈ p.cylinders, c.plc.isSome) ∧
    p.sensors.filter p.controls = p'.sensors.filter p.controls

end Plant

/-! ## Lists of related elements -/

/-- Sorting by a key that related elements share keeps them side by side. -/
theorem forall₂_mergeSort_key {α : Type} {R : α → α → Prop} {key : α → UInt32} {xs ys : List α}
    (hkey : ∀ a b, R a b → key a = key b) (h : List.Forall₂ R xs ys) :
    List.Forall₂ R (xs.mergeSort fun a b => key a ≤ key b)
      (ys.mergeSort fun a b => key a ≤ key b) := by
  obtain ⟨hlength, hzip⟩ := List.forall₂_iff_zip.mp h
  -- The pairs are sorted by the key of their first elements, which is that of the second ones.
  have hfst : (xs.mergeSort fun a b => key a ≤ key b) =
      ((xs.zip ys).mergeSort fun p q => key p.1 ≤ key q.1).map Prod.fst := by
    rw [map_mergeSort_key key fun _ => rfl, List.map_fst_zip hlength.le]
  have hsnd : (ys.mergeSort fun a b => key a ≤ key b) =
      ((xs.zip ys).mergeSort fun p q => key p.1 ≤ key q.1).map Prod.snd := by
    rw [List.map_mergeSort (s := fun a b => key a ≤ key b) fun p hp q hq => by
      rw [hkey _ _ (hzip hp), hkey _ _ (hzip hq)], List.map_snd_zip hlength.ge]
  rw [hfst, hsnd, List.forall₂_map_left_iff, List.forall₂_map_right_iff, List.forall₂_same]
  exact fun p hp => hzip (List.mem_mergeSort.mp hp)

/-- What comes of elements one by one is the same, if it is for related elements. -/
theorem flatMap_eq_of_forall₂ {α β γ : Type} {R : α → β → Prop} {f : α → List γ} {g : β → List γ}
    {xs : List α} {ys : List β} (hf : ∀ a b, R a b → f a = g b) (h : List.Forall₂ R xs ys) :
    xs.flatMap f = ys.flatMap g := by
  rw [List.flatMap_def, List.flatMap_def, map_eq_of_forall₂ hf h]

theorem filterMap_eq_of_forall₂ {α β γ : Type} {R : α → β → Prop} {f : α → Option γ}
    {g : β → Option γ} {xs : List α} {ys : List β} (hf : ∀ a b, R a b → f a = g b)
    (h : List.Forall₂ R xs ys) : xs.filterMap f = ys.filterMap g := by
  rw [List.filterMap_eq_flatMap_toList, List.filterMap_eq_flatMap_toList]
  exact flatMap_eq_of_forall₂ (fun a b hab => congrArg Option.toList (hf a b hab)) h

/-! ## Conditions -/

/-- The scopes have the same options, and cylinders that are named and addressed alike and see the
same sensors. -/
def Scope.ReadAlike (s s' : Scope) : Prop :=
  ∃ is sensors, s' = { s.among is with sensors } ∧
    s.sensors.filter (sees s.cylinder) = sensors.filter (sees s.cylinder)

section

variable {ios ios' : List IoPoint}

/-- Only the addresses of the points are read. -/
theorem IoPoint.map_address_eq (h : List.Forall₂ IoPoint.ReadAlike ios ios') :
    ios.map IoPoint.address = ios'.map IoPoint.address := by
  refine map_eq_of_forall₂ ?_ h
  rintro io _ ⟨polarity, rfl⟩
  rfl

theorem pointAddress_congr {n position : Nat} (hposition : position < n)
    (h : (ios.take n).map IoPoint.address = (ios'.take n).map IoPoint.address) :
    pointAddress ios position = pointAddress ios' position := by
  have hpoint : ∀ xs : List IoPoint, (xs[position]?.bind fun io => Text.nonBlank? io.address) =
      ((xs.take n).map IoPoint.address)[position]?.bind Text.nonBlank? := by
    intro xs
    rw [List.getElem?_map, List.getElem?_take_of_lt hposition]
    cases xs[position]? <;> rfl
  rw [pointAddress, pointAddress, hpoint, hpoint, h]

theorem pointAddresses_congr (position : Nat)
    (h : ios.map IoPoint.address = ios'.map IoPoint.address) :
    pointAddresses position ios = pointAddresses position ios' := by
  induction ios generalizing ios' position with
  | nil => rw [List.map_eq_nil_iff.mp h.symm]
  | cons io ios ih =>
    cases ios' with
    | nil => cases h
    | cons io' ios' =>
      obtain ⟨haddress, hrest⟩ := List.cons.inj h
      rw [pointAddresses, pointAddresses, haddress, ih (position + 1) hrest]

end

namespace Condition

variable {s s' : Scope} {i i' : Interlock} {d d' : Condition} {ios ios' : List IoPoint}

theorem singleContact_congr (opcode : Opcode)
    (h : (ios.take 1).map IoPoint.address = (ios'.take 1).map IoPoint.address) :
    singleContact opcode ios = singleContact opcode ios' := by
  rw [singleContact, singleContact, pointAddress_congr Nat.one_pos h]

theorem dualNegatedPair_congr
    (h : (ios.take 2).map IoPoint.address = (ios'.take 2).map IoPoint.address) :
    dualNegatedPair ios = dualNegatedPair ios' := by
  rw [dualNegatedPair, dualNegatedPair, pointAddress_congr Nat.two_pos h,
    pointAddress_congr Nat.one_lt_two h]

theorem orDual_congr (h : (ios.take 2).map IoPoint.address = (ios'.take 2).map IoPoint.address) :
    orDual ios = orDual ios' := by
  rw [orDual, orDual, pointAddress_congr Nat.two_pos h, pointAddress_congr Nat.one_lt_two h]

theorem orMany_congr (h : ios.map IoPoint.address = ios'.map IoPoint.address) :
    orMany ios = orMany ios' := by
  rw [orMany, orMany, pointAddresses_congr 0 h]

end Condition

/-- The polarities of the IO points are not read, however many of them are. -/
theorem Condition.readAlike_of_forall₂ {d : Condition} {ios : List IoPoint}
    (h : List.Forall₂ IoPoint.ReadAlike d.ios ios) : d.ReadAlike { d with ios } := by
  have hsorted : List.Forall₂ IoPoint.ReadAlike d.sortedIos { d with ios }.sortedIos := by
    refine forall₂_mergeSort_key ?_ h
    rintro io _ ⟨polarity, rfl⟩
    rfl
  refine ⟨d.polarity, d.reference, ios, rfl, fun _ => ⟨rfl, rfl⟩, ?_⟩
  obtain ⟨id, number, kind, _, _, _, _, _, _, _⟩ := d
  cases kind with
  | on | onInverted | limit | interlockIo => exact List.forall₂_take 1 hsorted
  | dualNegatedPair | orDual => exact List.forall₂_take 2 hsorted
  | orMany => exact hsorted
  | alarmSensor | memorySensor | interlockRef | unrecognized => exact .nil

/-- Sensors out of sight are not looked at. -/
theorem Convention.resolve?_eq_find?_filter (s : Scope) (v : Convention) : v.resolve? s =
    ((s.sensors.filter (sees s.cylinder)).find? fun sensor =>
      Text.trim sensor.name = v.key s).bind v.address? := by
  simp only [resolve?, List.find?_filter, Bool.decide_and, Bool.decide_eq_true]

namespace Scope.ReadAlike

variable {s s' : Scope} {i i' : Interlock} {d d' : Condition}

theorem resolve?_eq (hs : s.ReadAlike s') (v : Convention) : v.resolve? s = v.resolve? s' := by
  obtain ⟨is, sensors, rfl, hsensors⟩ := hs
  rw [Convention.resolve?_eq_find?_filter, Convention.resolve?_eq_find?_filter, hsensors]
  rfl

theorem sensor_eq (hs : s.ReadAlike s') (v : Convention) :
    Condition.sensor s v = Condition.sensor s' v := by
  rw [Condition.sensor, Condition.sensor, hs.resolve?_eq]
  obtain ⟨is, sensors, rfl, -⟩ := hs
  rfl

/-- The logic of a condition, kind by kind. -/
theorem logic_eq (hs : s.ReadAlike s') (hd : d.ReadAlike d') : d.logic s = d'.logic s' := by
  obtain ⟨polarity, reference, ios, rfl, hreference, hpoints⟩ := hd
  have haddresses := IoPoint.map_address_eq hpoints
  obtain ⟨id, number, kind, _, _, _, _, _, _, _⟩ := d
  cases kind with
  | on => exact Condition.singleContact_congr .and haddresses
  | onInverted | limit | interlockIo => exact Condition.singleContact_congr .ani haddresses
  | dualNegatedPair => exact Condition.dualNegatedPair_congr haddresses
  | orDual => exact Condition.orDual_congr haddresses
  | orMany => exact Condition.orMany_congr haddresses
  | alarmSensor => exact hs.sensor_eq .alarm
  | memorySensor => exact hs.sensor_eq .memoryBit
  | interlockRef =>
    obtain ⟨rfl, rfl⟩ := hreference rfl
    rfl
  | unrecognized tag => rfl

theorem rung_eq (hs : s.ReadAlike s') (hd : d.ReadAlike d') : d.rung s = d'.rung s' := by
  rw [Condition.rung, Condition.rung, hs.logic_eq hd]
  obtain ⟨polarity, reference, ios, rfl, -, -⟩ := hd
  rfl

theorem failure?_eq (hs : s.ReadAlike s') (hi : i.ReadAlike i') (hd : d.ReadAlike d') :
    d.failure? s i = d'.failure? s' i' := by
  rw [Condition.failure?, Condition.failure?, hs.rung_eq hd]
  obtain ⟨is, sensors, rfl, -⟩ := hs
  obtain ⟨processRange, gate, conditions, rfl, -, -⟩ := hi
  obtain ⟨polarity, reference, ios, rfl, -, -⟩ := hd
  rfl

end Scope.ReadAlike

/-! ## Interlocks -/

namespace Gate.ReadAlike

variable {g g' : Gate}

theorem kind_eq (h : g.ReadAlike g') : g.kind = g'.kind := by
  obtain ⟨address, rfl⟩ := h
  unfold withUnread
  split <;> rfl

theorem instruction?_eq (h : g.ReadAlike g') : g.instruction? = g'.instruction? := by
  obtain ⟨address, rfl⟩ := h
  obtain ⟨kind, ioAddress, deviceAddress, polarity⟩ := g
  cases kind <;> rfl

end Gate.ReadAlike

/-- The diagnostics of an interlock: why it has no rungs, or else the report on its gate and what
is wrong about its conditions. -/
theorem Interlock.filterMap_journal (s : Scope) (steps : List ProcessStep) (i : Interlock) :
    (i.journal s steps).filterMap Entry.diagnostic? =
      match i.opening s.options s.cylinder with
      | .error diagnostic => [diagnostic]
      | .ok _ => (i.gateReport s.cylinder).filterMap Entry.diagnostic? ++
          i.sortedConditions.filterMap (Condition.failure? s i) := by
  rw [journal, List.cons_append, List.filterMap_cons_none rfl, openingJournal]
  cases i.opening s.options s.cylinder with
  | error diagnostic => rfl
  | ok opening =>
    simp only [List.filterMap_append, filterMap_rangeNote, List.nil_append, List.filterMap_flatMap,
      Condition.filterMap_journal, ← List.filterMap_eq_flatMap_toList]

namespace Interlock.ReadAlike

variable {s s' : Scope} {i i' : Interlock}

theorem sortId_eq (hi : i.ReadAlike i') : i.sortId = i'.sortId := by
  obtain ⟨processRange, gate, conditions, rfl, -, -⟩ := hi
  rfl

theorem sortedConditions (hi : i.ReadAlike i') :
    List.Forall₂ Condition.ReadAlike i.sortedConditions i'.sortedConditions := by
  obtain ⟨processRange, gate, conditions, rfl, -, hconditions⟩ := hi
  refine forall₂_mergeSort_key ?_ hconditions
  rintro d _ ⟨polarity, reference, ios, rfl, -, -⟩
  rfl

theorem opening_eq (hs : s.ReadAlike s') (hi : i.ReadAlike i') :
    i.opening s.options s.cylinder = i'.opening s'.options s'.cylinder := by
  obtain ⟨is, sensors, rfl, -⟩ := hs
  obtain ⟨processRange, gate, conditions, rfl, hgate, -⟩ := hi
  have hinstruction : i.gate.bind Gate.instruction? = gate.bind Gate.instruction? := by
    generalize i.gate = gate' at hgate
    cases hgate with
    | none => rfl
    | some hg => exact hg.instruction?_eq
  rw [opening, opening, hinstruction]
  rfl

theorem gateReport_eq (hs : s.ReadAlike s') (hi : i.ReadAlike i') :
    i.gateReport s.cylinder = i'.gateReport s'.cylinder := by
  obtain ⟨is, sensors, rfl, -⟩ := hs
  obtain ⟨processRange, gate, conditions, rfl, hgate, -⟩ := hi
  obtain ⟨_, _, _, _, _, _, gate', _⟩ := i
  cases hgate with
  | none => rfl
  | some hg =>
    simp only [gateReport, hg.instruction?_eq, hg.kind_eq]
    rfl

theorem rungs_eq (hs : s.ReadAlike s') (hi : i.ReadAlike i') : i.rungs s = i'.rungs s' := by
  have hrungs : i.sortedConditions.filterMap (fun d => (d.rung s).toOption) =
      i'.sortedConditions.filterMap (fun d => (d.rung s').toOption) :=
    filterMap_eq_of_forall₂ (fun d d' hd => congrArg Except.toOption (hs.rung_eq hd))
      hi.sortedConditions
  rw [rungs, rungs, opening_eq hs hi, hrungs]

theorem items_eq (hs : s.ReadAlike s') (hi : i.ReadAlike i') : i.items s = i'.items s' := by
  rw [items, items, opening_eq hs hi, rungs_eq hs hi]
  obtain ⟨is, sensors, rfl, -⟩ := hs
  obtain ⟨processRange, gate, conditions, rfl, -, -⟩ := hi
  rfl

/-- The process steps are not read either. -/
theorem diagnostics_eq (hs : s.ReadAlike s') (hi : i.ReadAlike i')
    (steps steps' : List ProcessStep) :
    (i.journal s steps).filterMap Entry.diagnostic? =
      (i'.journal s' steps').filterMap Entry.diagnostic? := by
  have hfailures : i.sortedConditions.filterMap (Condition.failure? s i) =
      i'.sortedConditions.filterMap (Condition.failure? s' i') :=
    filterMap_eq_of_forall₂ (fun d d' hd => hs.failure?_eq hi hd) hi.sortedConditions
  rw [Interlock.filterMap_journal, Interlock.filterMap_journal, opening_eq hs hi,
    gateReport_eq hs hi, hfailures]

end Interlock.ReadAlike

/-! ## Cylinders and plants -/

namespace Cylinder.ReadAlike

variable {p p' : Plant} {c c' : Cylinder} (o : Options)

theorem sortedInterlocks (hc : c.ReadAlike c') :
    List.Forall₂ Interlock.ReadAlike c.sortedInterlocks c'.sortedInterlocks := by
  obtain ⟨interlocks, rfl, hinterlocks⟩ := hc
  exact forall₂_mergeSort_key (fun _ _ hi => hi.sortId_eq) hinterlocks

theorem scope (hc : c.ReadAlike c')
    (hsensors : p.sensors.filter (sees c) = p'.sensors.filter (sees c)) :
    (c.scope p o).ReadAlike (c'.scope p' o) := by
  obtain ⟨interlocks, rfl, -⟩ := hc
  exact ⟨interlocks, p'.sensors, rfl, hsensors⟩

theorem items_eq (hc : c.ReadAlike c')
    (hsensors : p.sensors.filter (sees c) = p'.sensors.filter (sees c)) :
    c.items p o = c'.items p' o := by
  have hs := hc.scope o hsensors
  have hitems : c.sortedInterlocks.flatMap (Interlock.items (c.scope p o)) =
      c'.sortedInterlocks.flatMap (Interlock.items (c'.scope p' o)) :=
    flatMap_eq_of_forall₂ (fun _ _ hi => hi.items_eq hs) hc.sortedInterlocks
  have houtputs : outputs (c.scope p o) = outputs (c'.scope p' o) :=
    congrArg (List.map Rung.device)
      (flatMap_eq_of_forall₂ (fun _ _ hi => hi.rungs_eq hs) hc.sortedInterlocks)
  rw [items, items, hitems, houtputs]
  obtain ⟨interlocks, rfl, -⟩ := hc
  rfl

theorem diagnostics_eq (hc : c.ReadAlike c')
    (hsensors : p.sensors.filter (sees c) = p'.sensors.filter (sees c)) :
    (p.generateCylinder o c).diagnostics = (p'.generateCylinder o c').diagnostics := by
  have hs := hc.scope o hsensors
  have hdiagnostics : (c.sortedInterlocks.flatMap fun i =>
      (i.journal (c.scope p o) p.processSteps).filterMap Entry.diagnostic?) =
        c'.sortedInterlocks.flatMap fun i =>
          (i.journal (c'.scope p' o) p'.processSteps).filterMap Entry.diagnostic? :=
    flatMap_eq_of_forall₂ (fun _ _ hi => hi.diagnostics_eq hs _ _) hc.sortedInterlocks
  change (c.journal p o).filterMap Entry.diagnostic? = (c'.journal p' o).filterMap Entry.diagnostic?
  rw [filterMap_journal, filterMap_journal, hdiagnostics]
  obtain ⟨interlocks, rfl, -⟩ := hc
  rfl

end Cylinder.ReadAlike

namespace Plant

variable {p p' : Plant}

/-- A cylinder with a controller sees no sensors but those of a controller. -/
theorem filter_sees_filter_controls {c : Cylinder} (hc : c ∈ p.cylinders) (hplc : c.plc.isSome)
    (sensors : List Sensor) :
    (sensors.filter p.controls).filter (sees c) = sensors.filter (sees c) := by
  rw [List.filter_filter]
  refine List.filter_congr fun sensor _ => ?_
  by_cases hsees : sees c sensor
  · have hplc' : sensor.plc = c.plc := by
      simpa [sees, Option.isSome_iff_ne_none.mp hplc] using hsees
    have hcontrols : p.controls sensor := List.any_eq_true.mpr ⟨c, hc, by simp [hplc, hplc']⟩
    rw [hsees, hcontrols, Bool.and_self]
  · rw [Bool.eq_false_of_not_eq_true hsees, Bool.false_and]

theorem ReadAlike.filter_sees (h : p.ReadAlike p') {c : Cylinder} (hc : c ∈ p.cylinders) :
    p.sensors.filter (sees c) = p'.sensors.filter (sees c) := by
  obtain hsensors | ⟨hplc, hsensors⟩ := h.sensors
  · rw [hsensors]
  · rw [← filter_sees_filter_controls hc (hplc c hc), hsensors,
      filter_sees_filter_controls hc (hplc c hc)]

/-- **What generation does not read does not matter.** Plants that are read alike have the same
rows and the same diagnostics. -/
theorem generate_of_readAlike (p p' : Plant) (o : Options) (h : p.ReadAlike p') :
    (p.generate o).rows = (p'.generate o).rows ∧
      (p.generate o).diagnostics = (p'.generate o).diagnostics := by
  have hcylinders : List.Forall₂ (fun c c' => c.ReadAlike c' ∧
      p.sensors.filter (sees c) = p'.sensors.filter (sees c)) p.cylinders p'.cylinders :=
    forall₂_imp_of_mem (fun c hc c' hread => ⟨hread, h.filter_sees hc⟩) h.cylinders
  refine ⟨?_, ?_⟩
  · rw [rows_generate, rows_generate,
      flatMap_eq_of_forall₂ (fun c c' hc => hc.1.items_eq o hc.2) hcylinders]
  · by_cases hne : p.cylinders = []
    · have hne' : p'.cylinders = [] := List.forall₂_nil_left_iff.mp (hne ▸ h.cylinders)
      rw [generate_of_nil p o hne, generate_of_nil p' o hne']
    · have hne' : p'.cylinders ≠ [] := fun hnil =>
        hne (List.forall₂_nil_right_iff.mp (hnil ▸ h.cylinders))
      rw [diagnostics_generate p o hne, diagnostics_generate p' o hne',
        flatMap_eq_of_forall₂ (fun c c' hc => hc.1.diagnostics_eq o hc.2) hcylinders]

end Plant

/-! ## A gated line

The press has a controller and a gate, and its conditions read a sensor, one IO point and two. -/

def guardOf (kind : Condition.Kind) (ios : List IoPoint) : Condition :=
  { pressOverride with kind, ios }

def gatedLock : Interlock :=
  { pressLock with
    gate := some ⟨.io, some "X9", none, .off⟩
    conditions := [guardOf .alarmSensor [], guardOf .limit [⟨0, "X2", .on⟩], pressOverride] }

/-- The same lock with a process range, another address in its gate, and other IO points. -/
def annotatedLock : Interlock :=
  { gatedLock with
    processRange := some ⟨1, 5⟩
    gate := some ⟨.io, some "X9", some "M9", .off⟩
    conditions :=
      [{ guardOf .alarmSensor [⟨0, "X0", .off⟩] with polarity := .off, reference := some "M7" },
        guardOf .limit [⟨1, "X3", .on⟩, ⟨0, "X2", .off⟩],
        guardOf .orMany [⟨0, "X0", .off⟩, ⟨1, "X1", .on⟩]] }

theorem readAlike_gatedLock : gatedLock.ReadAlike annotatedLock := by
  have hlimit : (guardOf .limit [⟨0, "X2", .on⟩]).ReadAlike
      (guardOf .limit [⟨1, "X3", .on⟩, ⟨0, "X2", .off⟩]) := by
    have hread : (guardOf .limit [⟨0, "X2", .on⟩]).pointsRead = [⟨0, "X2", .on⟩] := by cbv
    have hpoints : (guardOf .limit [⟨1, "X3", .on⟩, ⟨0, "X2", .off⟩]).pointsRead =
        [⟨0, "X2", .off⟩] := by cbv
    refine ⟨.on, none, _, rfl, fun hkind => Condition.Kind.noConfusion hkind, ?_⟩
    rw [hread, hpoints]
    exact .cons ⟨.off, rfl⟩ .nil
  have hoverride : pressOverride.ReadAlike (guardOf .orMany [⟨0, "X0", .off⟩, ⟨1, "X1", .on⟩]) :=
    Condition.readAlike_of_forall₂ (.cons ⟨.off, rfl⟩ (.cons ⟨.on, rfl⟩ .nil))
  have halarm : (guardOf .alarmSensor []).ReadAlike
      { guardOf .alarmSensor [⟨0, "X0", .off⟩] with polarity := .off, reference := some "M7" } :=
    ⟨.off, some "M7", _, rfl, fun hkind => Condition.Kind.noConfusion hkind, .nil⟩
  exact ⟨_, _, _, rfl, .some ⟨some "M9", rfl⟩,
    .cons halarm (.cons hlimit (.cons hoverride .nil))⟩

def gatedLine : Plant where
  cylinders := [{ press with plc := some 1, interlocks := [gatedLock] }]
  sensors := [⟨"X5", none, "001ALM", some 1⟩]
  processSteps := []

/-- The sensor in front has the right name, but belongs to no controller. -/
def annotatedLine : Plant where
  cylinders := [{ press with plc := some 1, interlocks := [annotatedLock] }]
  sensors := [⟨"X6", none, "001ALM", none⟩, ⟨"X5", none, "001ALM", some 1⟩]
  processSteps := [⟨1, "load"⟩]

theorem generate_gatedLine : gatedLine.ReadAlike annotatedLine ∧
    (gatedLine.generate .default).rows = (annotatedLine.generate .default).rows ∧
    (gatedLine.generate .default).diagnostics = (annotatedLine.generate .default).diagnostics := by
  have hread : gatedLine.ReadAlike annotatedLine := {
    cylinders := .cons ⟨_, rfl, .cons readAlike_gatedLock .nil⟩ .nil
    sensors := .inr ⟨by decide, by decide⟩ }
  exact ⟨hread, Plant.generate_of_readAlike _ _ .default hread⟩

end InterlockLadder
