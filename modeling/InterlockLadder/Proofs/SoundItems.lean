import InterlockLadder.Proofs.Simulation

/-! What the items of a cylinder consist of: statements that say something, and instructions whose
operands are not blank (`Item.IsSound`). Only the signal of a run mode is taken from the options as
it is. The devices that the items set are those of the assignments
(`Cylinder.filterMap_coil?_items`). -/

namespace InterlockLadder

/-- Whether the instructions of the family read a bit. -/
def Opcode.Family.isContact : Opcode.Family → Bool
  | .load _ | .logic => true
  | .block | .call | .consume | .separator | .noop => false

/-- The instructions that openings and the logic of conditions consist of. -/
inductive Instruction.IsLogic (o : Options) : Instruction → Prop
  | signal (mode : RunMode) : IsLogic o (mode.signal o)
  | contact {op : Opcode} {operand : String} (hop : op.family.isContact)
      (h : Text.isBlank operand = false) : IsLogic o ⟨op, operand⟩
  | block {op : Opcode} (hop : op.family = .block) : IsLogic o { opcode := op }

/-- The items that cylinders consist of. -/
inductive Item.IsSound (o : Options) : Item → Prop
  | statement {text : String} (h : Text.isBlank text = false) : IsSound o (.statement text)
  | logic {i : Instruction} (h : i.IsLogic o) : IsSound o (.instruction i)
  | output {op : Opcode} {operand : String} (hop : op.family = .consume)
      (h : Text.isBlank operand = false) : IsSound o (.instruction ⟨op, operand⟩)
  | nop : IsSound o (.instruction { opcode := .nop })

/-- The device that an item sets with `OUT`. -/
def Item.coil? : Item → Option String
  | .statement _ => none
  | .instruction i => if i.opcode = .out then some i.operand else none

namespace Instruction

variable {o : Options}

theorem IsLogic.ne_out {i : Instruction} (h : i.IsLogic o) : i.opcode ≠ .out := by
  intro hout
  cases h with
  | signal mode => cases mode <;> cases hout
  | contact hop =>
    cases hout
    cases hop
  | block hop =>
    cases hout
    cases hop

theorem isLogic_of_mem_map {op : Opcode} (hop : op.family.isContact) {devices : List String}
    (h : ∀ device ∈ devices, Text.isBlank device = false) :
    ∀ i ∈ devices.map (Instruction.mk op), i.IsLogic o := by
  intro i hi
  obtain ⟨device, hdevice, rfl⟩ := List.mem_map.mp hi
  exact .contact hop (h device hdevice)

end Instruction

/-- Logic sets nothing. -/
theorem filterMap_coil?_of_isLogic {o : Options} {is : List Instruction}
    (h : ∀ i ∈ is, i.IsLogic o) : (is.map Item.instruction).filterMap Item.coil? = [] := by
  refine List.filterMap_eq_nil_iff.mpr fun item hitem => ?_
  obtain ⟨i, hi, rfl⟩ := List.mem_map.mp hitem
  exact if_neg (h i hi).ne_out

@[simp] theorem Cylinder.isBlank_address (c : Cylinder) (offset : Nat) :
    Text.isBlank (c.address offset) = false := by
  simp [address]

@[simp] theorem Options.isBlank_literal (o : Options) (value : UInt32) :
    Text.isBlank (o.literal value) = false := by
  simp [literal]

/-! ## Openings -/

theorem isLogic_of_mem_anyOf {o : Options} {devices : List String}
    (h : ∀ device ∈ devices, Text.isBlank device = false) :
    ∀ i ∈ anyOf devices, i.IsLogic o := by
  cases devices with
  | nil => exact fun i hi => absurd hi List.not_mem_nil
  | cons device devices =>
    obtain ⟨hdevice, hdevices⟩ := List.forall_mem_cons.mp h
    exact List.forall_mem_cons.mpr
      ⟨.contact rfl hdevice, Instruction.isLogic_of_mem_map rfl hdevices⟩

theorem Gate.isLogic_of_instruction? {o : Options} {g : Gate} {i : Instruction}
    (h : g.instruction? = some i) : i.IsLogic o := by
  obtain ⟨address, haddress, rfl⟩ := Option.map_eq_some_iff.mp h
  have hblank : Text.isBlank address = false := isBlank_of_filled? haddress
  cases hpolarity : g.polarity with
  | on => exact .contact rfl hblank
  | off => exact .contact rfl hblank

theorem Interlock.isLogic_of_opening {o : Options} {c : Cylinder} {i : Interlock}
    {opening : List Instruction} (hc : c.isAddressable) (h : i.opening o c = .ok opening) :
    ∀ instruction ∈ opening, instruction.IsLogic o := by
  cases hmode : i.runMode with
  | none =>
    obtain ⟨d, herror⟩ := opening_eq_error (o := o) (c := c) hmode
    rw [herror] at h
    cases h
  | some mode =>
    rw [opening_eq_ok hc hmode] at h
    cases h
    refine List.forall_mem_append.mpr ⟨List.forall_mem_append.mpr ⟨?_, ?_⟩, ?_⟩
    · refine isLogic_of_mem_anyOf fun device hdevice => ?_
      obtain ⟨offset, -, rfl⟩ := List.mem_map.mp hdevice
      exact c.isBlank_address _
    · exact List.forall_mem_singleton.mpr (.signal mode)
    · intro instruction hinstruction
      obtain ⟨g, -, hg⟩ := Option.bind_eq_some_iff.mp (Option.mem_toList.mp hinstruction)
      exact g.isLogic_of_instruction? hg

/-! ## Conditions -/

theorem isBlank_of_pointAddress {ios : List IoPoint} {position : Nat} {address : String}
    (h : pointAddress ios position = .ok address) : Text.isBlank address = false := by
  rw [pointAddress] at h
  split at h
  · next hpoint =>
    cases h
    obtain ⟨io, -, hio⟩ := Option.bind_eq_some_iff.mp hpoint
    exact Text.isBlank_of_nonBlank? hio
  · cases h

theorem isBlank_of_pointAddresses {ios : List IoPoint} {position : Nat} {addresses : List String}
    (h : pointAddresses position ios = .ok addresses) :
    ∀ address ∈ addresses, Text.isBlank address = false := by
  induction ios generalizing position addresses with
  | nil =>
    cases h
    exact fun address haddress => absurd haddress List.not_mem_nil
  | cons io ios ih =>
    rw [pointAddresses] at h
    split at h
    · cases h
    · next first hfirst =>
      obtain ⟨others, hothers, rfl⟩ := map_eq_ok_iff.mp h
      exact List.forall_mem_cons.mpr ⟨Text.isBlank_of_nonBlank? hfirst, ih hothers⟩

namespace Condition

variable {o : Options} {logic : List Instruction}

theorem isLogic_of_singleContact {op : Opcode} (hop : op.family.isContact) {ios : List IoPoint}
    (h : singleContact op ios = .ok logic) : ∀ i ∈ logic, i.IsLogic o := by
  obtain ⟨first, hfirst, h⟩ := bind_eq_ok_iff.mp h
  cases h
  exact List.forall_mem_singleton.mpr (.contact hop (isBlank_of_pointAddress hfirst))

theorem isLogic_of_dualNegatedPair {ios : List IoPoint} (h : dualNegatedPair ios = .ok logic) :
    ∀ i ∈ logic, i.IsLogic o := by
  obtain ⟨first, hfirst, h⟩ := bind_eq_ok_iff.mp h
  obtain ⟨second, hsecond, h⟩ := bind_eq_ok_iff.mp h
  cases h
  simp only [List.forall_mem_cons]
  exact ⟨.contact rfl (isBlank_of_pointAddress hfirst),
    .contact rfl (isBlank_of_pointAddress hsecond), .block rfl, List.forall_mem_nil _⟩

theorem isLogic_of_orDual {ios : List IoPoint} (h : orDual ios = .ok logic) :
    ∀ i ∈ logic, i.IsLogic o := by
  obtain ⟨first, hfirst, h⟩ := bind_eq_ok_iff.mp h
  obtain ⟨second, hsecond, h⟩ := bind_eq_ok_iff.mp h
  cases h
  have hfirst' := isBlank_of_pointAddress hfirst
  have hsecond' := isBlank_of_pointAddress hsecond
  simp only [List.forall_mem_cons]
  exact ⟨.contact rfl hfirst', .contact rfl hsecond', .contact rfl hfirst',
    .contact rfl hsecond', .block rfl, .block rfl, List.forall_mem_nil _⟩

theorem isLogic_of_orMany {ios : List IoPoint} (h : orMany ios = .ok logic) :
    ∀ i ∈ logic, i.IsLogic o := by
  obtain ⟨addresses, haddresses, h⟩ := bind_eq_ok_iff.mp h
  have hblank := isBlank_of_pointAddresses haddresses
  rcases addresses with _ | ⟨first, _ | ⟨second, others⟩⟩
  · cases h
  · cases h
    exact List.forall_mem_singleton.mpr (.contact rfl (hblank first List.mem_cons_self))
  · cases h
    obtain ⟨hfirst, hothers⟩ := List.forall_mem_cons.mp hblank
    rw [List.cons_append]
    exact List.forall_mem_cons.mpr ⟨.contact rfl hfirst, List.forall_mem_append.mpr
      ⟨Instruction.isLogic_of_mem_map rfl hothers, List.forall_mem_singleton.mpr (.block rfl)⟩⟩

theorem isBlank_of_resolve? {s : Scope} {v : Convention} {address : String}
    (h : v.resolve? s = some address) : Text.isBlank address = false := by
  obtain ⟨sensor, -, haddress⟩ := Option.bind_eq_some_iff.mp h
  cases v with
  | alarm => exact Text.isBlank_of_nonBlank? haddress
  | memoryBit =>
    obtain halternate | ⟨-, hplain⟩ := Option.or_eq_some_iff.mp haddress
    · exact isBlank_of_filled? halternate
    · exact Text.isBlank_of_nonBlank? hplain

theorem isLogic_of_sensor {s : Scope} {v : Convention} (h : sensor s v = .ok logic) :
    ∀ i ∈ logic, i.IsLogic o := by
  rw [sensor] at h
  split at h
  · next haddress =>
    cases h
    exact List.forall_mem_singleton.mpr (.contact rfl (isBlank_of_resolve? haddress))
  · cases h

theorem isLogic_of_interlockRef {c : Condition} (h : c.interlockRef = .ok logic) :
    ∀ i ∈ logic, i.IsLogic o := by
  rw [interlockRef] at h
  split at h
  · next hdevice =>
    cases h
    have hblank := isBlank_of_filled? hdevice
    cases hpolarity : c.polarity with
    | on => exact List.forall_mem_singleton.mpr (.contact rfl hblank)
    | off => exact List.forall_mem_singleton.mpr (.contact rfl hblank)
  · cases h

/-- The logic of every kind of condition has the operands that it needs. -/
theorem isLogic_of_logic {s : Scope} {c : Condition} (h : c.logic s = .ok logic) :
    ∀ i ∈ logic, i.IsLogic o := by
  rw [Condition.logic] at h
  split at h
  · exact isLogic_of_singleContact rfl h
  · exact isLogic_of_singleContact rfl h
  · exact isLogic_of_singleContact rfl h
  · exact isLogic_of_dualNegatedPair h
  · exact isLogic_of_orDual h
  · exact isLogic_of_orMany h
  · exact isLogic_of_sensor h
  · exact isLogic_of_sensor h
  · exact isLogic_of_interlockRef h
  · exact isLogic_of_singleContact rfl h
  · cases h

end Condition

/-! ## Rungs -/

namespace Rung

variable {o : Options} {opening : List Instruction} {r : Rung}

theorem isSound_of_mem_items (hstatement : Text.isBlank r.statement = false)
    (hopening : ∀ i ∈ opening, i.IsLogic o) (hlogic : ∀ i ∈ r.logic, i.IsLogic o)
    (hdevice : Text.isBlank r.device = false) : ∀ item ∈ r.items o opening, item.IsSound o := by
  have hmov : Text.isBlank (o.literal r.number ++ " " ++ o.errorDevice) = false := by simp
  rw [items]
  refine List.forall_mem_cons.mpr ⟨.statement hstatement, ?_⟩
  intro item hitem
  obtain ⟨i, hi, rfl⟩ := List.mem_map.mp hitem
  obtain hi | hi := List.mem_append.mp hi
  · obtain hi | hi := List.mem_append.mp hi
    · exact .logic (hopening i hi)
    · exact .logic (hlogic i hi)
  · obtain rfl | hi := List.mem_cons.mp hi
    · exact .output rfl hdevice
    · cases List.mem_singleton.mp hi
      exact .output rfl hmov

/-- A rung sets its device and nothing else. -/
theorem filterMap_coil?_items (hopening : ∀ i ∈ opening, i.IsLogic o)
    (hlogic : ∀ i ∈ r.logic, i.IsLogic o) :
    (r.items o opening).filterMap Item.coil? = [r.device] := by
  rw [items, List.filterMap_cons_none rfl, List.map_append, List.filterMap_append, List.map_append,
    List.filterMap_append, filterMap_coil?_of_isLogic hopening, filterMap_coil?_of_isLogic hlogic]
  rfl

end Rung

namespace Interlock

variable {s : Scope} {i : Interlock}

/-- A rung of an interlock comes from one of its conditions. -/
theorem exists_of_mem_rungs {r : Rung} (h : r ∈ i.rungs s) :
    ∃ c ∈ i.conditions, c.rung s = .ok r := by
  rw [rungs] at h
  split at h
  · cases h
  · obtain ⟨c, hc, hr⟩ := List.mem_filterMap.mp h
    exact ⟨c, List.mem_mergeSort.mp hc, toOption_eq_some_iff.mp hr⟩

theorem isBlank_device_of_mem_rungs {r : Rung} (h : r ∈ i.rungs s) :
    Text.isBlank r.device = false := by
  obtain ⟨c, -, hr⟩ := exists_of_mem_rungs h
  obtain ⟨-, -, hdevice, -⟩ := Condition.rung_eq_ok hr
  exact isBlank_of_filled? hdevice

theorem isSound_of_mem_items (hs : s.cylinder.isAddressable) :
    ∀ item ∈ i.items s, item.IsSound s.options := by
  rw [items]
  refine List.forall_mem_cons.mpr ⟨.statement (by simp), ?_⟩
  cases hopening : i.opening s.options s.cylinder with
  | error d => exact List.forall_mem_nil _
  | ok opening =>
    intro item hitem
    obtain ⟨r, hr, hitem⟩ := List.mem_flatMap.mp hitem
    obtain ⟨c, -, hrung⟩ := exists_of_mem_rungs hr
    obtain ⟨hstatement, hlogic, hdevice, -⟩ := Condition.rung_eq_ok hrung
    exact Rung.isSound_of_mem_items hstatement (isLogic_of_opening hs hopening)
      (Condition.isLogic_of_logic hlogic) (isBlank_of_filled? hdevice) item hitem

/-- An interlock sets the devices of its rungs. -/
theorem filterMap_coil?_items (hs : s.cylinder.isAddressable) :
    (i.items s).filterMap Item.coil? = (i.rungs s).map Rung.device := by
  rw [items, List.filterMap_cons_none rfl]
  cases hopening : i.opening s.options s.cylinder with
  | error d => simp [rungs, hopening]
  | ok opening =>
    have hrungs : ∀ r ∈ i.rungs s,
        (r.items s.options opening).filterMap Item.coil? = [r.device] := by
      intro r hr
      obtain ⟨c, -, hrung⟩ := exists_of_mem_rungs hr
      obtain ⟨-, hlogic, -, -⟩ := Condition.rung_eq_ok hrung
      exact Rung.filterMap_coil?_items (isLogic_of_opening hs hopening)
        (Condition.isLogic_of_logic hlogic)
    change ((i.rungs s).flatMap (Rung.items s.options opening)).filterMap Item.coil? = _
    rw [List.filterMap_flatMap, List.flatMap_def, List.map_congr_left hrungs, ← List.flatMap_def,
      ← List.map_eq_flatMap]

end Interlock

/-! ## Permissions -/

namespace Permission

variable {o : Options} {c : Cylinder} {outputs : List String} {p : Permission}

theorem isSound_of_mem_items (h : ∀ device ∈ outputs, Text.isBlank device = false) :
    ∀ item ∈ p.items c outputs, item.IsSound o := by
  refine List.forall_mem_cons.mpr ⟨.statement (isBlank_statement c p), fun item hitem => ?_⟩
  obtain ⟨i, hi, rfl⟩ := List.mem_map.mp hitem
  obtain hi | hi := List.mem_append.mp hi
  · refine .logic (List.forall_mem_cons.mpr ⟨.contact rfl (c.isBlank_address _), ?_⟩ i hi)
    exact Instruction.isLogic_of_mem_map rfl h
  · cases List.mem_singleton.mp hi
    exact .output rfl (c.isBlank_address _)

/-- A permission sets its target and nothing else. -/
theorem filterMap_coil?_items : (p.items c outputs).filterMap Item.coil? =
    [c.address p.target.toNat] := by
  have hcontacts : (outputs.map fun output => Item.instruction ⟨.ani, output⟩).filterMap
      Item.coil? = [] := by
    refine List.filterMap_eq_nil_iff.mpr fun item hitem => ?_
    obtain ⟨output, -, rfl⟩ := List.mem_map.mp hitem
    rfl
  rw [items, logic, List.filterMap_cons_none rfl, List.map_append, List.map_cons, List.map_map,
    List.cons_append, List.filterMap_cons_none rfl, List.filterMap_append]
  change List.filterMap _ (outputs.map fun output => Item.instruction ⟨.ani, output⟩) ++ _ = _
  rw [hcontacts]
  rfl

end Permission

/-! ## Cylinders -/

namespace Cylinder

variable {p : Plant} {o : Options} {c : Cylinder}

theorem isSound_of_mem_items (h : c.isAddressable) : ∀ item ∈ c.items p o, item.IsSound o := by
  rw [items_eq h]
  refine List.forall_mem_append.mpr ⟨List.forall_mem_append.mpr ⟨?_, ?_⟩, ?_⟩
  · intro item hitem
    obtain ⟨i, -, hitem⟩ := List.mem_flatMap.mp hitem
    exact i.isSound_of_mem_items (s := c.scope p o) h item hitem
  · intro item hitem
    obtain ⟨permission, -, hitem⟩ := List.mem_flatMap.mp hitem
    refine permission.isSound_of_mem_items (fun device hdevice => ?_) item hitem
    obtain ⟨r, hr, rfl⟩ := List.mem_map.mp hdevice
    obtain ⟨i, -, hr⟩ := List.mem_flatMap.mp hr
    exact i.isBlank_device_of_mem_rungs hr
  · exact List.forall_mem_singleton.mpr .nop

/-- The interlocks of a cylinder set its outputs. -/
theorem filterMap_coil?_interlocks (h : c.isAddressable) :
    (c.sortedInterlocks.flatMap (Interlock.items (c.scope p o))).filterMap Item.coil? =
      outputs (c.scope p o) := by
  have hitems : ∀ i ∈ c.sortedInterlocks, (i.items (c.scope p o)).filterMap Item.coil? =
      (i.rungs (c.scope p o)).map Rung.device :=
    fun i _ => i.filterMap_coil?_items (s := c.scope p o) h
  rw [List.filterMap_flatMap, List.flatMap_def, List.map_congr_left hitems, ← List.flatMap_def,
    outputs, List.map_flatMap]
  rfl

/-- A cylinder sets the devices of its assignments. -/
theorem filterMap_coil?_items (h : c.isAddressable) :
    (c.items p o).filterMap Item.coil? = (c.assignments p o).map Assignment.device := by
  have hpermissions : ∀ outputs : List String,
      (Permission.all.flatMap (Permission.items c outputs)).filterMap Item.coil? =
        (c.permissionAssignments outputs).map Assignment.device := by
    intro outputs
    rw [List.filterMap_flatMap, List.flatMap_def, List.map_congr_left fun permission _ =>
      permission.filterMap_coil?_items]
    rfl
  rw [items_eq h, List.filterMap_append, List.filterMap_append, filterMap_coil?_interlocks h,
    hpermissions, assignments, List.map_append, outputs_eq h]
  exact List.append_nil _

end Cylinder

end InterlockLadder
