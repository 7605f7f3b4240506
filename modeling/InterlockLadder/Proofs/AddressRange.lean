import InterlockLadder.Proofs.Ledger
import InterlockLadder.Proofs.PermissionBlocks

/-! The range of device numbers, and what empties a run. The test of the greatest offset, made once
for each cylinder, covers all that is addressed later: within range every interlock with a run mode
has its opening and every cylinder its permissions, so that only a cylinder out of range is ever
reported as one. Its block is empty, and a run is empty if all blocks are; only the lack of any
cylinder is critical (`Plant.generate_by_range`). -/

namespace InterlockLadder

/-- The run without its rows, if one of its diagnostics is critical. -/
def Generation.unlessCritical (g : Generation) : Generation :=
  if g.diagnostics.any Diagnostic.critical then ⟨[], g.journal⟩ else g

/-- The diagnostic neither makes a run worthless nor says that a device has no number. -/
structure Diagnostic.IsMinor (d : Diagnostic) : Prop where
  critical : d.critical = false
  problem : d.problem ≠ .deviceOutOfRange

/-! ## Reports within range -/

theorem Defect.isMinor_diagnostic (c : Cylinder) (i : Interlock) (d : Condition) (defect : Defect) :
    (defect.diagnostic c i d).IsMinor := by
  cases defect <;> exact ⟨rfl, nofun⟩

theorem Condition.isMinor_of_failure? {s : Scope} {i : Interlock} {d : Condition}
    {diagnostic : Diagnostic} (h : d.failure? s i = some diagnostic) : diagnostic.IsMinor := by
  rw [failure?] at h
  split at h
  · cases h
  · cases h
    exact Defect.isMinor_diagnostic _ _ _ _

namespace Interlock

variable {s : Scope} {i : Interlock}

theorem isMinor_of_accounts {items : List Item} {ds : List Diagnostic}
    (h : i.Accounts s items ds) : ∀ d ∈ ds, d.IsMinor := by
  cases h with
  | outOfRange | complete => exact List.forall_mem_nil _
  | noRunMode | unresolved => exact List.forall_mem_singleton.mpr ⟨rfl, nofun⟩

theorem isMinor_of_mem_journal (h : s.cylinder.isAddressable) (steps : List ProcessStep) :
    ∀ d ∈ (i.journal s steps).filterMap Entry.diagnostic?, d.IsMinor := by
  rw [journal, List.filterMap_append, List.filterMap_cons_none rfl]
  refine List.forall_mem_append.mpr
    ⟨isMinor_of_accounts (accounts_openingJournal h steps), fun d hd => ?_⟩
  cases hopening : i.opening s.options s.cylinder with
  | error diagnostic => simp [hopening] at hd
  | ok opening =>
    rw [hopening, List.filterMap_flatMap] at hd
    obtain ⟨condition, -, hd⟩ := List.mem_flatMap.mp hd
    rw [Condition.filterMap_journal] at hd
    exact Condition.isMinor_of_failure? (Option.mem_toList.mp hd)

end Interlock

/-! ## Cylinders -/

namespace Cylinder

variable {p : Plant} {o : Options} {c : Cylinder}

/-- All devices of a cylinder have numbers if the greatest one does. -/
theorem isAddressable_iff : c.isAddressable ↔ c.base.toNat ≤ 4294967295 - 18 := by
  have hgreatest : Offset.greatest.toNat = 18 := rfl
  have hsize : UInt32.size = 4294967296 := rfl
  rw [isAddressable, device?, Option.isSome_ite, hgreatest, hsize]
  omega

theorem not_isAddressable_iff : ¬c.isAddressable ↔ 4294967295 - 18 < c.base.toNat := by
  rw [isAddressable_iff, Nat.not_le]

theorem items_eq_nil_iff : c.items p o = [] ↔ ¬c.isAddressable := by
  refine ⟨fun hnil h => ?_, c.items_of_not_isAddressable p o⟩
  rw [items_eq h] at hnil
  exact List.append_ne_nil_of_right_ne_nil _ (List.cons_ne_nil _ _) hnil

theorem isMinor_of_mem_diagnostics (h : c.isAddressable) :
    ∀ d ∈ (p.generateCylinder o c).diagnostics, d.IsMinor := by
  intro d hd
  rw [Generation.diagnostics, Plant.generateCylinder, filterMap_journal, if_pos h] at hd
  obtain ⟨i, -, hd⟩ := List.mem_flatMap.mp hd
  exact i.isMinor_of_mem_journal (s := c.scope p o) h p.processSteps d hd

theorem diagnostics_of_not_isAddressable (h : ¬c.isAddressable) :
    (p.generateCylinder o c).diagnostics = [Offset.outOfRange c] := by
  rw [Generation.diagnostics, Plant.generateCylinder, filterMap_journal, if_neg h]

theorem critical_of_mem_diagnostics :
    ∀ d ∈ (p.generateCylinder o c).diagnostics, d.critical = false := by
  intro d hd
  by_cases h : c.isAddressable
  · exact (isMinor_of_mem_diagnostics h d hd).critical
  · rw [diagnostics_of_not_isAddressable h] at hd
    rw [List.mem_singleton.mp hd]
    rfl

theorem filter_deviceOutOfRange :
    (p.generateCylinder o c).diagnostics.filter (·.problem = .deviceOutOfRange) =
      if c.isAddressable then [] else [Offset.outOfRange c] := by
  by_cases h : c.isAddressable
  · rw [if_pos h, List.filter_eq_nil_iff]
    intro d hd
    simpa using (isMinor_of_mem_diagnostics h d hd).problem
  · rw [if_neg h, diagnostics_of_not_isAddressable h]
    rfl

/-- Within range, every opening has the numbers of its requests. -/
theorem isSome_runModeOpening? (h : c.isAddressable) (o : Options) (mode : RunMode)
    (direction : Direction) : (runModeOpening? o c mode direction).isSome := by
  have hdevices : (requestOffsets mode direction).mapM c.device? =
      some ((requestOffsets mode direction).map fun offset => c.address offset.toNat) :=
    mapM_eq_some_map fun offset hoffset =>
      device?_eq_address h (toNat_le_of_mem_requestOffsets hoffset)
  rw [runModeOpening?, hdevices]
  rfl

end Cylinder

/-! ## Plants -/

namespace Plant

variable (p : Plant) (o : Options)

theorem diagnostics_generate (h : p.cylinders ≠ []) :
    (p.generate o).diagnostics =
      p.cylinders.flatMap fun c => (p.generateCylinder o c).diagnostics := by
  rw [generate_of_ne_nil o h, Generation.diagnostics, List.filterMap_flatMap]
  rfl

theorem generate_of_nil (h : p.cylinders = []) : p.generate o = ⟨[], [.report noContent]⟩ := by
  rw [generate, h]
  rfl

theorem exists_critical_iff :
    (∃ d ∈ (p.generate o).diagnostics, d.critical) ↔ p.cylinders = [] := by
  constructor
  · rintro ⟨d, hd, hcritical⟩
    by_contra hcylinders
    rw [p.diagnostics_generate o hcylinders] at hd
    obtain ⟨c, -, hd⟩ := List.mem_flatMap.mp hd
    rw [Cylinder.critical_of_mem_diagnostics d hd] at hcritical
    cases hcritical
  · intro hcylinders
    rw [p.generate_of_nil o hcylinders]
    exact ⟨noContent, List.mem_singleton_self _, rfl⟩

theorem rows_generate_eq_nil_iff :
    (p.generate o).rows = [] ↔ ∀ c ∈ p.cylinders, ¬c.isAddressable := by
  rw [rows_generate, ← List.length_eq_zero_iff, Item.number, Item.length_numberFrom,
    List.length_eq_zero_iff, List.flatMap_eq_nil_iff]
  exact forall₂_congr fun c _ => Cylinder.items_eq_nil_iff

theorem filter_deviceOutOfRange :
    (p.generate o).diagnostics.filter (·.problem = .deviceOutOfRange) =
      (p.cylinders.filter fun c => !c.isAddressable).map Offset.outOfRange := by
  by_cases hcylinders : p.cylinders = []
  · rw [p.generate_of_nil o hcylinders, hcylinders]
    rfl
  · rw [p.diagnostics_generate o hcylinders, List.filter_flatMap, ← List.filterMap_eq_map,
      List.filterMap_filter, List.filterMap_eq_flatMap_toList]
    refine List.flatMap_congr fun c _ => ?_
    rw [Cylinder.filter_deviceOutOfRange]
    cases c.isAddressable <;> rfl

/-- No run loses its rows to a critical diagnostic, for a critical run has none. -/
theorem unlessCritical_generate : (p.generate o).unlessCritical = p.generate o := by
  rw [Generation.unlessCritical]
  split
  · next hany =>
    obtain ⟨d, hd, hcritical⟩ := List.any_eq_true.mp hany
    rw [p.generate_of_nil o ((p.exists_critical_iff o).mp ⟨d, hd, hcritical⟩)]
  · rfl

theorem unlessCritical_generateCylinder (c : Cylinder) :
    (p.generateCylinder o c).unlessCritical = p.generateCylinder o c := by
  refine if_neg fun hany => ?_
  obtain ⟨d, hd, hcritical⟩ := List.any_eq_true.mp hany
  rw [Cylinder.critical_of_mem_diagnostics d hd] at hcritical
  cases hcritical

/-- The listing of a plant consists of one block for each cylinder within range. -/
theorem exists_blocks : ∃ blocks, (p.generate o).rows = blocks.flatten ∧
    List.Forall₂ (Cylinder.IsBlock p o) (p.cylinders.filter Cylinder.isAddressable) blocks := by
  obtain ⟨parts, hrows, hparts⟩ := p.exists_parts o
  refine ⟨parts, hrows, hparts.imp ?_⟩
  rintro c _ ⟨hc, key, step, rfl⟩
  exact Cylinder.isBlock_numberFrom hc key step

/-- **Only the lack of cylinders is critical, and only the range of numbers empties blocks.** A run
without cylinders has the one critical diagnostic that there is, and no rows. Any other run is empty
exactly if all cylinders are out of range, and then it says so of each and says nothing else. Within
range, a cylinder is never reported as out of range: each of its openings has its requests and the
cylinder has its permissions, so that its block ends with four permissions and a `NOP`. -/
theorem generate_by_range :
    ((∃ d ∈ (p.generate o).diagnostics, d.critical) ↔ p.cylinders = []) ∧
      (p.cylinders = [] → (p.generate o).rows = [] ∧
        (p.generate o).diagnostics =
          [{ problem := .noContent, owner := .run, critical := true }]) ∧
      (∀ c, ∀ d ∈ (p.generateCylinder o c).diagnostics, d.critical = false) ∧
      (p.generate o).unlessCritical = p.generate o ∧
      (∀ c, (p.generateCylinder o c).unlessCritical = p.generateCylinder o c) ∧
      (p.cylinders ≠ [] →
        ((p.generate o).rows = [] ↔ ∀ c ∈ p.cylinders, 4294967295 - 18 < c.base.toNat) ∧
        ((p.generate o).rows = [] → (p.generate o).diagnostics = p.cylinders.map fun c =>
          { problem := .deviceOutOfRange, owner := .cylinder c,
            described := ["base=" ++ toString c.base.toNat] })) ∧
      (p.generate o).diagnostics.filter (·.problem = .deviceOutOfRange) =
        (p.cylinders.filter fun c => 4294967295 - 18 < c.base.toNat).map Offset.outOfRange ∧
      (∃ blocks, (p.generate o).rows = blocks.flatten ∧ List.Forall₂ (Cylinder.IsBlock p o)
        (p.cylinders.filter fun c => c.base.toNat ≤ 4294967295 - 18) blocks) ∧
      (∀ c, 4294967295 - 18 < c.base.toNat → (p.generateCylinder o c).rows = [] ∧
        (p.generateCylinder o c).diagnostics = [Offset.outOfRange c]) ∧
      (∀ c, c.base.toNat ≤ 4294967295 - 18 → c.IsBlock p o (p.generateCylinder o c).rows ∧
        (∀ d ∈ (p.generateCylinder o c).diagnostics, d.problem ≠ .deviceOutOfRange) ∧
        (∀ mode direction, (runModeOpening? o c mode direction).isSome) ∧
        ∀ outputs, (Permission.rungs? c outputs).isSome) := by
  have hin : (fun c : Cylinder => decide (c.base.toNat ≤ 4294967295 - 18)) =
      Cylinder.isAddressable := by
    funext c
    rw [← Bool.coe_iff_coe, decide_eq_true_iff, Cylinder.isAddressable_iff]
  have hout : (fun c : Cylinder => decide (4294967295 - 18 < c.base.toNat)) =
      fun c => !c.isAddressable := by
    funext c
    rw [← Bool.coe_iff_coe, decide_eq_true_iff, ← Cylinder.not_isAddressable_iff,
      Bool.not_eq_true', Bool.not_eq_true]
  have hempty := p.rows_generate_eq_nil_iff o
  rw [hin, hout]
  refine ⟨p.exists_critical_iff o, fun h => ?_, fun c => Cylinder.critical_of_mem_diagnostics,
    p.unlessCritical_generate o, p.unlessCritical_generateCylinder o,
    fun hne => ⟨?_, fun hnil => ?_⟩, p.filter_deviceOutOfRange o, p.exists_blocks o,
    fun c hc => ?_, fun c hc => ?_⟩
  · rw [p.generate_of_nil o h]
    exact ⟨rfl, rfl⟩
  · simpa only [Cylinder.not_isAddressable_iff] using hempty
  · have hcylinders : ∀ c ∈ p.cylinders,
        (p.generateCylinder o c).diagnostics = [Offset.outOfRange c] := fun c hc =>
      Cylinder.diagnostics_of_not_isAddressable (hempty.mp hnil c hc)
    rw [p.diagnostics_generate o hne, List.flatMap_congr hcylinders, ← List.map_eq_flatMap]
    rfl
  · have hout := Cylinder.not_isAddressable_iff.mpr hc
    rw [generateCylinder, c.items_of_not_isAddressable p o hout]
    exact ⟨rfl, Cylinder.diagnostics_of_not_isAddressable hout⟩
  · have hin := Cylinder.isAddressable_iff.mpr hc
    refine ⟨Cylinder.isBlock_numberFrom hin 1 0, fun d hd => ?_,
      Cylinder.isSome_runModeOpening? hin o, fun outputs => ?_⟩
    · exact (Cylinder.isMinor_of_mem_diagnostics hin d hd).problem
    · rw [Permission.rungs?_eq_some hin]
      rfl

end Plant

/-- The press with the greatest base that leaves a number to each of its devices. -/
def lastPress : Cylinder :=
  { press with base := 4294967277 }

/-- A press one number further up, with an interlock that has a defect of its own, and another. -/
def unnumberedLine : Plant where
  cylinders := [
    { lastPress with base := 4294967278, interlocks := [{ pressLock with runMode := none }] },
    { lastPress with base := 4294967295 }]
  sensors := []
  processSteps := []

/-- Only the ranges are reported. One number further down there is a block. -/
theorem generate_unnumberedLine : unnumberedLine.cylinders ≠ [] ∧
    (∀ c ∈ unnumberedLine.cylinders, 4294967295 - 18 < c.base.toNat) ∧
    (unnumberedLine.generate .default).rows = [] ∧
    (unnumberedLine.generate .default).diagnostics.map (fun d => (d.code, d.described)) =
      [("G0002", ["base=4294967278"]), ("G0002", ["base=4294967295"])] ∧
    lastPress.base.toNat ≤ 4294967295 - 18 ∧
    lastPress.IsBlock unnumberedLine .default
      (unnumberedLine.generateCylinder .default lastPress).rows := by
  have hcylinders : unnumberedLine.cylinders ≠ [] := nofun
  have hbases : ∀ c ∈ unnumberedLine.cylinders, 4294967295 - 18 < c.base.toNat := by decide
  have hlast : lastPress.base.toNat ≤ 4294967295 - 18 := by decide
  obtain ⟨-, -, -, -, -, hempty, -, -, -, hrange⟩ := unnumberedLine.generate_by_range .default
  obtain ⟨hiff, hdiagnostics⟩ := hempty hcylinders
  have hrows := hiff.mpr hbases
  refine ⟨hcylinders, hbases, hrows, ?_, hlast, (hrange lastPress hlast).1⟩
  rw [hdiagnostics hrows]
  decide +kernel

end InterlockLadder
