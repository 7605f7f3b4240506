import InterlockLadder.Proofs.Lowering

/-! The rows of a cylinder, executed by the machine of a ladder, make the assignments of the
cylinder (`Cylinder.execute_generateCylinder`). The rungs of an interlock and the permissions are
gathered one by one, each by an induction over the records that they come from. -/

namespace InterlockLadder

open StackMachine (execute start)

namespace Interlock

/-- The rungs of some conditions make their assignments and set the same devices. -/
theorem implements_rungs {s : Scope} {opening : List Instruction} {precondition : Memory → Bool}
    (hopening : ∀ m stack,
      StackMachine.follow ladder opening ⟨m, stack⟩ = some ⟨m, precondition m :: stack⟩)
    (cs : List Condition) :
    Implements ((cs.filterMap fun c => (c.rung s).toOption).flatMap (Rung.items s.options opening))
        (cs.filterMap (Condition.assignment? s precondition)) ∧
      (cs.filterMap fun c => (c.rung s).toOption).map Rung.device =
        (cs.filterMap (Condition.assignment? s precondition)).map Assignment.device := by
  induction cs with
  | nil => exact ⟨.nil, rfl⟩
  | cons c cs ih =>
    obtain ⟨himplements, hdevices⟩ := ih
    have hagrees := c.rung_agrees s precondition
    cases hrung : c.rung s with
    | error defect =>
      -- A defect costs the condition its rung and its assignment alike.
      have hnone := hagrees.eq_none_of_error hrung
      rw [List.filterMap_cons_none (by rw [hrung]; rfl), List.filterMap_cons_none hnone]
      exact ⟨himplements, hdevices⟩
    | ok r =>
      obtain ⟨a, hassignment, hdevice, hitems⟩ := hagrees.exists_of_ok hrung
      rw [List.filterMap_cons_some (by rw [hrung]; rfl), List.filterMap_cons_some hassignment,
        List.flatMap_cons, List.map_cons, List.map_cons, hdevice, hdevices]
      exact ⟨(hitems s.options opening hopening).append himplements, rfl⟩

/-- The items of an interlock make its assignments, and its rungs set the same devices. -/
theorem implements_items {s : Scope} (h : s.cylinder.isAddressable) (i : Interlock) :
    Implements (i.items s) (i.assignments s) ∧
      (i.rungs s).map Rung.device = (i.assignments s).map Assignment.device := by
  have hstatement : Text.isBlank (s.cylinder.displayName ++ " " ++ i.displayName) = false := by
    simp
  cases hmode : i.runMode with
  | none =>
    obtain ⟨d, hopening⟩ := opening_eq_error (o := s.options) (c := s.cylinder) hmode
    simp only [items, rungs, assignments, hopening, hmode]
    exact ⟨Implements.nil.statement hstatement, rfl⟩
  | some mode =>
    obtain ⟨opening, hopening, hfollow⟩ := exists_opening (o := s.options) h hmode
    simp only [items, rungs, assignments, hopening, hmode]
    obtain ⟨himplements, hdevices⟩ := implements_rungs hfollow i.sortedConditions
    exact ⟨himplements.statement hstatement, hdevices⟩

end Interlock

namespace Permission

/-- The rung of a permission, as long as its devices have numbers. -/
def items (c : Cylinder) (outputs : List String) (p : Permission) : List Item :=
  .statement (c.displayName ++ " " ++ p.name ++ " permission") ::
    (logic (c.address p.request.toNat) (c.address p.target.toNat) outputs).map .instruction

theorem rungs?_eq_some {c : Cylinder} (h : c.isAddressable) (outputs : List String) :
    rungs? c outputs = some (all.flatMap (items c outputs)) := by
  have hoffsets : ∀ p ∈ all, p.request.toNat ≤ 18 ∧ p.target.toNat ≤ 18 := by decide
  have hall : all.mapM (items? c outputs) = some (all.map (items c outputs)) := by
    refine mapM_eq_some_map fun p hp => ?_
    obtain ⟨hrequest, htarget⟩ := hoffsets p hp
    rw [items?, Cylinder.device?_eq_address h hrequest, Cylinder.device?_eq_address h htarget]
    rfl
  rw [rungs?, hall, Option.map_some, List.flatMap_def]

theorem isBlank_statement (c : Cylinder) (p : Permission) :
    Text.isBlank (c.displayName ++ " " ++ p.name ++ " permission") = false := by
  have htail : Text.isBlank " permission" = false := by decide
  simp [htail]

theorem implements_items (c : Cylinder) (outputs : List String) (p : Permission) :
    Implements (p.items c outputs) [⟨c.address p.target.toNat,
      fun m => m (c.address p.request.toNat) && outputs.all (!m ·)⟩] := by
  intro key step m
  have hclear : m.clear = ⟨m.memory, []⟩ := rfl
  rw [items, StackMachine.execute_statement ladder (isBlank_statement c p),
    StackMachine.execute_instructions,
    logic, List.cons_append, hclear, StackMachine.follow_ld, StackMachine.follow_append,
    StackMachine.follow_contacts rfl,
    Opcode.foldl_combine_of_not_isDisjunctive m.memory outputs _ rfl]
  exact ⟨_, rfl, fun _ => Nat.le_refl 1⟩

end Permission

namespace Cylinder

/-- The interlocks of a cylinder make the assignments of the conditions. -/
theorem implements_interlocks {s : Scope} (h : s.cylinder.isAddressable) (is : List Interlock) :
    Implements (is.flatMap (Interlock.items s)) (is.flatMap (Interlock.assignments s)) ∧
      (is.flatMap (Interlock.rungs s)).map Rung.device =
        (is.flatMap (Interlock.assignments s)).map Assignment.device := by
  induction is with
  | nil => exact ⟨.nil, rfl⟩
  | cons i is ih =>
    obtain ⟨himplements, hdevices⟩ := ih
    obtain ⟨hitems, hrungs⟩ := i.implements_items h
    rw [List.flatMap_cons, List.flatMap_cons, List.flatMap_cons, List.map_append, List.map_append,
      hrungs, hdevices]
    exact ⟨hitems.append himplements, rfl⟩

theorem implements_nop : Implements [.instruction { opcode := .nop }] [] := fun key step m => by
  rw [show [Item.instruction { opcode := .nop }] = [{ opcode := .nop }].map .instruction from rfl,
    StackMachine.execute_instructions]
  exact ⟨m.stack, rfl, fun hm => hm⟩

/-- The permission rungs make the assignments of the permissions. -/
theorem implements_permissions (c : Cylinder) (outputs : List String) :
    Implements (Permission.all.flatMap (Permission.items c outputs))
      (c.permissionAssignments outputs) := by
  have hall : ∀ ps : List Permission, Implements (ps.flatMap (Permission.items c outputs))
      (ps.map fun p => ⟨c.address p.target.toNat,
        fun m => m (c.address p.request.toNat) && outputs.all (!m ·)⟩) := by
    intro ps
    induction ps with
    | nil => exact .nil
    | cons p ps ih => exact (p.implements_items c outputs).append ih
  exact hall Permission.all

variable {p : Plant} {o : Options} {c : Cylinder}

theorem outputs_eq (h : c.isAddressable) :
    outputs (c.scope p o) = (conditionAssignments (c.scope p o)).map Assignment.device :=
  (implements_interlocks (s := c.scope p o) h c.sortedInterlocks).2

/-- The items of a cylinder whose devices all have numbers. -/
theorem items_eq (h : c.isAddressable) :
    c.items p o = c.sortedInterlocks.flatMap (Interlock.items (c.scope p o)) ++
      Permission.all.flatMap (Permission.items c (outputs (c.scope p o))) ++
        [.instruction { opcode := .nop }] := by
  have hrungs := Permission.rungs?_eq_some h (outputs (c.scope p o))
  simp only [items, h, if_true, hrungs, Option.getD_some]

/-- The items of a cylinder make its assignments. -/
theorem implements_items (h : c.isAddressable) :
    Implements (c.items p o) (c.assignments p o) := by
  have hinterlocks := (implements_interlocks (s := c.scope p o) h c.sortedInterlocks).1
  have hpermissions := c.implements_permissions (outputs (c.scope p o))
  rw [items_eq h, ← List.append_nil (c.assignments p o), assignments, ← outputs_eq h]
  exact (hinterlocks.append hpermissions).append implements_nop

/-- **Lowering keeps the meaning of a cylinder.** Its rows are never stuck, they leave the memory
that its assignments leave, and no more than one value stays on the stack. -/
theorem execute_generateCylinder (p : Plant) (o : Options) (h : c.isAddressable)
    (memory : Memory) :
    ∃ stack, (start memory).execute ladder (p.generateCylinder o c).rows =
      some ⟨memory.assignAll (c.assignments p o), stack⟩ ∧ stack.length ≤ 1 := by
  obtain ⟨stack, hexecute, hlow⟩ := implements_items (p := p) (o := o) h 1 0 (start memory)
  exact ⟨stack, hexecute, hlow (Nat.zero_le 1)⟩

end Cylinder

/-! ## A press

It moves forward by hand, and its only condition has two alternatives. -/

def pressOverride : Condition where
  id := 1
  number := 1
  kind := .orMany
  polarity := .on
  device := some "M100"
  interlockNumber := some 1
  reference := none
  ios := [⟨0, "X0", .on⟩, ⟨1, "X1", .on⟩]
  comment1 := none
  comment2 := none

def pressLock : Interlock where
  id := 1
  sortId := 1
  name := none
  direction := .forward
  runMode := some .manual
  processRange := none
  gate := none
  conditions := [pressOverride]

def press : Cylinder where
  id := 1
  name := ⟨"CY", "001", ""⟩
  label := "M"
  base := 1000
  plc := none
  interlocks := [pressLock]

theorem sortedIos_pressOverride : pressOverride.sortedIos = pressOverride.ios :=
  List.mergeSort_of_pairwise (by decide)

theorem truth?_pressOverride (s : Scope) :
    pressOverride.truth? s = some fun m => m "X0" || !m "X1" := by
  have hpoints : pressOverride.points? = some ("X0", ["X1"]) := by
    rw [Condition.points?, sortedIos_pressOverride]
    decide
  change pressOverride.points?.map _ = _
  rw [hpoints]
  simp

theorem exists_rung_pressOverride (s : Scope) :
    ∃ r, pressOverride.rung s = .ok r ∧ r.device = "M100" := by
  have hdevice : pressOverride.assignedDevice? = some "M100" := by decide
  obtain ⟨logic, hlogic, -⟩ :=
    (pressOverride.logic_agrees s).exists_of_some (truth?_pressOverride s)
  rw [Condition.rung, hdevice, hlogic]
  exact ⟨_, rfl, rfl⟩

theorem conditionAssignments_press (p : Plant) (o : Options) :
    Cylinder.conditionAssignments (press.scope p o) = [⟨"M100", fun m =>
      pressOverride.joined (pressLock.precondition o press .manual m) (m "X0" || !m "X1")⟩] := by
  have hdevice : pressOverride.assignedDevice? = some "M100" := by decide
  have hassignment : pressOverride.assignment? (press.scope p o)
      (pressLock.precondition o press .manual) = some ⟨"M100", fun m =>
        pressOverride.joined (pressLock.precondition o press .manual m) (m "X0" || !m "X1")⟩ := by
    rw [Condition.assignment?, hdevice, truth?_pressOverride]
    rfl
  have hinterlocks : (press.scope p o).cylinder.sortedInterlocks = [pressLock] :=
    List.mergeSort_singleton pressLock
  have hconditions : pressLock.sortedConditions = [pressOverride] :=
    List.mergeSort_singleton pressOverride
  rw [Cylinder.conditionAssignments, hinterlocks, List.flatMap_singleton,
    Interlock.assignments]
  change pressLock.sortedConditions.filterMap _ = _
  rw [hconditions]
  exact List.filterMap_cons_some hassignment

/-- A request turns the bit of the press on, which then takes the permission away. -/
theorem execute_press : press.isAddressable ∧ ∃ m : StackMachine Memory Bool,
    (start (· == "M1010")).execute ladder (Plant.empty.generateCylinder .default press).rows =
      some m ∧ m.memory "M100" = true ∧ m.memory "M1017" = false := by
  refine ⟨by decide, ?_⟩
  obtain ⟨stack, hexecute, -⟩ :=
    Cylinder.execute_generateCylinder .empty .default (c := press) (by decide) (· == "M1010")
  refine ⟨_, hexecute, ?_⟩
  simp only [Cylinder.assignments, conditionAssignments_press]
  decide +kernel

end InterlockLadder
