import InterlockLadder.Proofs.Acceptance
import Mathlib.Data.List.Nodup

/-! A cylinder without double coils masks nothing. All its devices are then set once
(`Cylinder.nodup_devices`), so what a rung writes stays, and a permission agrees with the outputs
and the request as they are in the end (`Cylinder.permission_settled`). A condition may set a
request: the permissions come after it and read what it wrote. -/

namespace InterlockLadder

open StackMachine (execute start)

/-! ## Devices that are set once -/

namespace Memory

variable {m : Memory} {as front back : List Assignment} {a : Assignment} {device : String}

theorem set_of_ne (m : Memory) {other : String} (value : Bool) (h : device ≠ other) :
    m.set other value device = m device :=
  if_neg h

theorem assignAll_of_not_mem (h : device ∉ as.map Assignment.device) :
    m.assignAll as device = m device := by
  induction as generalizing m with
  | nil => rfl
  | cons a as ih =>
    obtain ⟨hne, hrest⟩ := List.ne_and_not_mem_of_not_mem_cons h
    exact (ih hrest).trans (set_of_ne m (a.value m) hne)

/-- A device that is set once keeps what it is set to. -/
theorem assignAll_of_nodup (h : ((front ++ a :: back).map Assignment.device).Nodup) :
    m.assignAll (front ++ a :: back) a.device = a.value (m.assignAll front) := by
  have hback : a.device ∉ back.map Assignment.device := by
    rw [List.map_append, List.map_cons] at h
    exact (List.nodup_cons.mp (List.nodup_append.mp h).2.1).1
  rw [assignAll_append]
  exact (assignAll_of_not_mem hback).trans (if_pos rfl)

end Memory

theorem repr_injective : Function.Injective Nat.repr := by
  refine Function.LeftInverse.injective (g := fun text => Nat.ofDigitChars 10 text.toList 0) ?_
  intro n
  change Nat.ofDigitChars 10 n.repr.toList 0 = n
  rw [Nat.toList_repr, Nat.ofDigitChars_ten_toDigits]

theorem Cylinder.address_inj {c : Cylinder} {a b : Nat} (h : c.address a = c.address b) :
    a = b := by
  have hnumber : (c.base.toNat + a).repr = (c.base.toNat + b).repr :=
    (String.append_right_inj c.label).mp h
  exact Nat.add_left_cancel (repr_injective hnumber)

/-! ## Permissions -/

namespace Cylinder

theorem map_device_permissionAssignments (c : Cylinder) (outputs : List String) :
    (c.permissionAssignments outputs).map Assignment.device =
      permissionOffsets.map fun offsets => c.address offsets.2 :=
  rfl

theorem address_request_not_mem (c : Cylinder) (outputs : List String) {request target : Nat}
    (h : (request, target) ∈ permissionOffsets) :
    c.address request ∉ (c.permissionAssignments outputs).map Assignment.device := by
  have hoffsets : ∀ offsets ∈ permissionOffsets, ∀ offsets' ∈ permissionOffsets,
      offsets.1 ≠ offsets'.2 := by decide
  rw [map_device_permissionAssignments]
  intro hmem
  obtain ⟨offsets', hmem', haddress⟩ := List.mem_map.mp hmem
  exact hoffsets _ h _ hmem' (address_inj haddress).symm

/-- A permission agrees with its request and with the outputs behind all assignments. -/
theorem permission_settled {c : Cylinder} {conditions : List Assignment} {m final : Memory}
    (hnodup : ((conditions ++ c.permissionAssignments (conditions.map Assignment.device)).map
      Assignment.device).Nodup)
    (hfinal : final = m.assignAll
      (conditions ++ c.permissionAssignments (conditions.map Assignment.device)))
    {request target : Nat} (h : (request, target) ∈ permissionOffsets) :
    final (c.address target) = true ↔ final (c.address request) = true ∧
      ∀ device ∈ conditions.map Assignment.device, final device = false := by
  have hrequest := c.address_request_not_mem (conditions.map Assignment.device) h
  have houtputs := (List.nodup_append.mp (List.map_append ▸ hnodup)).2.2
  generalize conditions.map Assignment.device = outputs at *
  obtain ⟨before, after, hsplit⟩ := List.append_of_mem
    (List.mem_map_of_mem (f := fun offsets => Assignment.mk (c.address offsets.2)
      fun m => m (c.address offsets.1) && outputs.all (!m ·)) h)
  change c.permissionAssignments outputs = _ at hsplit
  rw [hsplit, ← List.append_assoc] at hnodup hfinal
  -- What the permission reads is not set any more, neither by itself nor by those after it.
  have hread : ∀ device, device ∉ (c.permissionAssignments outputs).map Assignment.device →
      final device = m.assignAll (conditions ++ before) device := by
    intro device hdevice
    rw [hsplit, List.map_append, List.mem_append, not_or] at hdevice
    rw [hfinal, Memory.assignAll_append]
    exact Memory.assignAll_of_not_mem hdevice.2
  have hvalue : final (c.address target) =
      (m.assignAll (conditions ++ before) (c.address request) &&
        outputs.all (!m.assignAll (conditions ++ before) ·)) := by
    rw [hfinal]
    exact Memory.assignAll_of_nodup hnodup
  rw [hvalue, Bool.and_eq_true, List.all_eq_true, hread _ hrequest]
  refine and_congr_right fun _ => forall₂_congr fun device hdevice => ?_
  have hfresh : device ∉ (c.permissionAssignments outputs).map Assignment.device :=
    fun hmem => houtputs device hdevice device hmem rfl
  rw [hread device hfresh, Bool.not_eq_true']

end Cylinder

/-! ## Rungs within a cylinder -/

/-- A part of the items makes one of their assignments, and the items around it make the others. -/
def Isolates (items : List Item) (as : List Assignment) (part : List Item) (a : Assignment) :
    Prop :=
  ∃ front back before after, items = front ++ part ++ back ∧ as = before ++ a :: after ∧
    Implements front before ∧ Implements part [a] ∧ Implements back after

namespace Isolates

variable {items items' part : List Item} {as as' : List Assignment} {a : Assignment}

theorem append_right (h : Isolates items as part a) (h' : Implements items' as') :
    Isolates (items ++ items') (as ++ as') part a := by
  obtain ⟨front, back, before, after, rfl, rfl, hfront, hpart, hback⟩ := h
  refine ⟨front, back ++ items', before, after ++ as', ?_, ?_, hfront, hpart, hback.append h'⟩
  · simp only [List.append_assoc]
  · simp only [List.append_assoc, List.cons_append]

theorem append_left (h : Implements items as) (h' : Isolates items' as' part a) :
    Isolates (items ++ items') (as ++ as') part a := by
  obtain ⟨front, back, before, after, rfl, rfl, hfront, hpart, hback⟩ := h'
  refine ⟨items ++ front, back, as ++ before, after, ?_, ?_, h.append hfront, hpart, hback⟩
  · simp only [List.append_assoc]
  · simp only [List.append_assoc]

/-- What the part writes is still there behind all items, if every device is set once. -/
theorem execute_number (h : Isolates items as part a) (hnodup : (as.map Assignment.device).Nodup)
    (memory : Memory) :
    ∃ front back key step m, Item.number items = front ++ Item.numberFrom key step part ++ back ∧
      (start memory).execute ladder (front ++ Item.numberFrom key step part) = some m ∧
      memory.assignAll as a.device = m.memory a.device := by
  obtain ⟨front, back, before, after, rfl, rfl, hfront, hpart, -⟩ := h
  obtain ⟨stack, hexecute, -⟩ := hfront.append hpart 1 0 (start memory)
  rw [Item.numberFrom_append] at hexecute
  rw [Item.number, Item.numberFrom_append, Item.numberFrom_append]
  refine ⟨_, _, _, _, _, rfl, hexecute, ?_⟩
  rw [Memory.assignAll_of_nodup hnodup, Memory.assignAll_append]
  exact (if_pos rfl).symm

end Isolates

theorem Interlock.isolates {s : Scope} {i : Interlock} {mode : RunMode} {d : Condition} {r : Rung}
    (hs : s.cylinder.isAddressable) (hmode : i.runMode = some mode) (hd : d ∈ i.conditions)
    (hr : d.rung s = .ok r) :
    ∃ opening a, i.opening s.options s.cylinder = .ok opening ∧ a.device = r.device ∧
      Isolates (i.items s) (i.assignments s) (r.items s.options opening) a := by
  obtain ⟨opening, hopening, hfollow⟩ := exists_opening (o := s.options) hs hmode
  obtain ⟨a, hassignment, hdevice, hitems⟩ :=
    (d.rung_agrees s (i.precondition s.options s.cylinder mode)).exists_of_ok hr
  refine ⟨opening, a, hopening, hdevice.symm, ?_⟩
  have hsorted : d ∈ i.sortedConditions := List.mem_mergeSort.mpr hd
  obtain ⟨cs, cs', hsplit⟩ := List.append_of_mem hsorted
  have hfront := (implements_rungs (s := s) hfollow cs).1
  have hback := (implements_rungs (s := s) hfollow cs').1
  have hstatement : Text.isBlank (s.cylinder.displayName ++ " " ++ i.displayName) = false := by
    simp
  have hrung : (d.rung s).toOption = some r := toOption_eq_some_iff.mpr hr
  simp only [items, rungs, assignments, hopening, hmode, hsplit, List.filterMap_append,
    List.filterMap_cons, hrung, hassignment, List.flatMap_append, List.flatMap_cons]
  refine ⟨_, _, _, _, ?_, rfl, hfront.statement hstatement, hitems _ _ hfollow, hback⟩
  simp only [List.cons_append, List.append_assoc]

theorem Interlock.mem_rungs_iff {s : Scope} {i : Interlock} {r : Rung}
    (hs : s.cylinder.isAddressable) :
    r ∈ i.rungs s ↔ i.runMode.isSome ∧ ∃ d ∈ i.conditions, d.rung s = .ok r := by
  rw [rungs_eq hs]
  by_cases hmode : i.runMode.isSome
  · simp [hmode, sortedConditions, toOption_eq_some_iff]
  · simp [hmode]

namespace Cylinder

variable {p : Plant} {o : Options} {c : Cylinder}

theorem isolates_flatMap {s : Scope} (hs : s.cylinder.isAddressable) {is : List Interlock}
    {i : Interlock} (hi : i ∈ is) {part : List Item} {a : Assignment}
    (h : Isolates (i.items s) (i.assignments s) part a) :
    Isolates (is.flatMap (Interlock.items s)) (is.flatMap (Interlock.assignments s)) part a := by
  obtain ⟨front, back, rfl⟩ := List.append_of_mem hi
  simp only [List.flatMap_append, List.flatMap_cons]
  exact .append_left (implements_interlocks hs front).1
    (h.append_right (implements_interlocks hs back).1)

/-- The condition `d` of the interlock `i` is lowered to the rung `r`. -/
structure Lowers (p : Plant) (o : Options) (c : Cylinder) (i : Interlock) (d : Condition)
    (r : Rung) : Prop where
  interlock : i ∈ c.interlocks
  runMode : i.runMode.isSome
  condition : d ∈ i.conditions
  rung : d.rung (c.scope p o) = .ok r

theorem Lowers.isolates {i : Interlock} {d : Condition} {r : Rung} (h : c.Lowers p o i d r)
    (hc : c.isAddressable) :
    ∃ opening a, i.opening o c = .ok opening ∧ a.device = r.device ∧
      Isolates (c.items p o) (c.assignments p o) (r.items o opening) a := by
  obtain ⟨mode, hmode⟩ := Option.isSome_iff_exists.mp h.runMode
  obtain ⟨opening, a, hopening, hdevice, hi⟩ :=
    Interlock.isolates (s := c.scope p o) hc hmode h.condition h.rung
  refine ⟨opening, a, hopening, hdevice, ?_⟩
  have hsorted : i ∈ c.sortedInterlocks := List.mem_mergeSort.mpr h.interlock
  have hinterlocks := isolates_flatMap (s := c.scope p o) hc hsorted hi
  rw [items_eq hc, outputs_eq hc, ← List.append_nil (c.assignments p o), assignments]
  exact (hinterlocks.append_right (c.implements_permissions _)).append_right implements_nop

theorem mem_outputs_iff {device : String} (hc : c.isAddressable) :
    device ∈ (conditionAssignments (c.scope p o)).map Assignment.device ↔
      ∃ i d r, c.Lowers p o i d r ∧ r.device = device := by
  rw [← outputs_eq hc, outputs, List.mem_map]
  constructor
  · rintro ⟨r, hr, rfl⟩
    obtain ⟨i, hi, hr⟩ := List.mem_flatMap.mp hr
    obtain ⟨hmode, d, hd, hrung⟩ := (Interlock.mem_rungs_iff (s := c.scope p o) hc).mp hr
    exact ⟨i, d, r, ⟨List.mem_mergeSort.mp hi, hmode, hd, hrung⟩, rfl⟩
  · rintro ⟨i, d, r, h, rfl⟩
    have hr := (Interlock.mem_rungs_iff (s := c.scope p o) hc).mpr
      ⟨h.runMode, d, h.condition, h.rung⟩
    exact ⟨r, List.mem_flatMap.mpr ⟨i, List.mem_mergeSort.mpr h.interlock, hr⟩, rfl⟩

theorem nodup_devices (hc : c.isAddressable) {mark : String}
    (h : ∀ issue ∈ validate mark (p.generateCylinder o c).rows,
      issue.problem ≠ .duplicateOutput) :
    ((c.assignments p o).map Assignment.device).Nodup := by
  have hissues : DoubleCoil.issues (p.generateCylinder o c).rows = [] := by
    refine List.eq_nil_iff_forall_not_mem.mpr fun issue hissue => ?_
    exact h issue (List.mem_append_right _ hissue) (DoubleCoil.problem_of_mem_issuesFrom hissue).1
  have hrows : (p.generateCylinder o c).rows.filterMap DoubleCoil.device? =
      ((c.assignments p o).map Assignment.device).map fun device =>
        Text.upper (Text.trim device) := by
    rw [← filterMap_coil?_items hc, List.map_filterMap]
    exact Item.filterMap_numberFrom 1 0 fun item hitem key step =>
      Item.device?_row (isSound_of_mem_items hc item hitem)
  rw [DoubleCoil.issues_eq_nil_iff, hrows] at hissues
  exact hissues.of_map _

/-- **A cylinder without double coils masks nothing.** Behind all its rows, the device of every
lowered condition has the value that its own rung wrote, and each permission is on exactly if its
request is on and the devices of all lowered conditions are off. -/
theorem settled_of_no_doubleCoil (p : Plant) (o : Options) (hc : c.isAddressable) (mark : String)
    (hcoils : ∀ issue ∈ validate mark (p.generateCylinder o c).rows,
      issue.problem ≠ .duplicateOutput) (memory : Memory) :
    ∃ final, (start memory).execute ladder (p.generateCylinder o c).rows = some final ∧
      (∀ i d r, c.Lowers p o i d r → ∃ opening front back key step m,
        i.opening o c = .ok opening ∧
        (p.generateCylinder o c).rows =
          front ++ Item.numberFrom key step (r.items o opening) ++ back ∧
        (start memory).execute ladder (front ++ Item.numberFrom key step (r.items o opening)) =
          some m ∧
        final.memory r.device = m.memory r.device) ∧
      ∀ offsets ∈ permissionOffsets, (final.memory (c.address offsets.2) = true ↔
        final.memory (c.address offsets.1) = true ∧
          ∀ i d r, c.Lowers p o i d r → final.memory r.device = false) := by
  have hnodup := nodup_devices hc hcoils
  obtain ⟨stack, hexecute, -⟩ := implements_items (p := p) (o := o) hc 1 0 (start memory)
  refine ⟨⟨memory.assignAll (c.assignments p o), stack⟩, hexecute, fun i d r h => ?_,
    fun offsets hoffsets => ?_⟩
  · obtain ⟨opening, a, hopening, hdevice, hisolates⟩ := h.isolates hc
    obtain ⟨front, back, key, step, m, hrows, hm, hvalue⟩ :=
      hisolates.execute_number hnodup memory
    exact ⟨opening, front, back, key, step, m, hopening, hrows, hm, hdevice ▸ hvalue⟩
  · refine (permission_settled hnodup rfl hoffsets).trans (and_congr_right fun _ => ?_)
    simp only [mem_outputs_iff hc]
    exact ⟨fun h i d r hr => h r.device ⟨i, d, r, hr, rfl⟩,
      fun h device ⟨i, d, r, hr, hdevice⟩ => hdevice ▸ h i d r hr⟩

theorem problem_of_mem_validate_press : ∀ issue ∈ validate "K"
    (Plant.empty.generateCylinder .default press).rows, issue.problem ≠ .duplicateOutput := by
  have hlisting : Source.listing .default [.cylinder .empty press] =
      (Plant.empty.generateCylinder .default press).rows := List.flatMap_singleton _ _
  rw [← hlisting]
  intro issue hissue
  obtain hissue | hissue := List.mem_append.mp hissue
  · rw [Source.listingIssues_listing] at hissue
    obtain ⟨row, -, rfl⟩ := List.mem_map.mp hissue
    nofun
  · have hnodup : ((Source.listing .default [.cylinder .empty press]).filterMap
        DoubleCoil.device?).Nodup := by
      rw [Source.filterMap_device?_listing, List.flatMap_singleton, Source.coils_press]
      decide +kernel
    rw [DoubleCoil.issues_eq_nil_iff.mpr hnodup] at hissue
    cases hissue

/-- The press is asked to move and its condition is fulfilled, so the permission stays off. -/
theorem settled_press : press.isAddressable ∧
    (∀ issue ∈ validate "K" (Plant.empty.generateCylinder .default press).rows,
      issue.problem ≠ .duplicateOutput) ∧
    (∃ r, press.Lowers .empty .default pressLock pressOverride r ∧ r.device = "M100") ∧
    ∃ final, (start (· == "M1010")).execute ladder
        (Plant.empty.generateCylinder .default press).rows = some final ∧
      final.memory "M1010" = true ∧ final.memory "M100" = true ∧
      final.memory "M1017" = false := by
  have hc : press.isAddressable := by decide
  obtain ⟨r, hr, hdevice⟩ := exists_rung_pressOverride (press.scope .empty .default)
  have hlowers : press.Lowers .empty .default pressLock pressOverride r :=
    ⟨List.mem_singleton_self _, rfl, List.mem_singleton_self _, hr⟩
  obtain ⟨final, hfinal, -, hpermissions⟩ := settled_of_no_doubleCoil .empty .default hc "K"
    problem_of_mem_validate_press (· == "M1010")
  obtain ⟨stack, hexecute, -⟩ :=
    implements_items (p := .empty) (o := .default) hc 1 0 (start (· == "M1010"))
  have hmemory := Option.some.inj (hfinal.symm.trans hexecute)
  have hvalues : final.memory "M1010" = true ∧ final.memory "M100" = true := by
    rw [hmemory]
    simp only [assignments, conditionAssignments_press]
    decide +kernel
  refine ⟨hc, problem_of_mem_validate_press, ⟨r, hlowers, hdevice⟩, final, hfinal, hvalues.1,
    hvalues.2, Bool.eq_false_iff.mpr fun hon => ?_⟩
  have hoff := ((hpermissions (10, 17) (by decide)).mp hon).2 pressLock pressOverride r hlowers
  rw [hdevice, hvalues.2] at hoff
  cases hoff

end Cylinder

end InterlockLadder
