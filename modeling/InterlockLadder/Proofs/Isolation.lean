import InterlockLadder.Proofs.Lists
import InterlockLadder.Proofs.Simulation
import InterlockLadder.Proofs.Surroundings
import Mathlib.Data.List.Permutation

/-! Failure isolation. A condition without a rung may be deleted from a plant: all rows stay, and of
the diagnostics only its own goes (`Plant.generate_without`). Records may be equal, so conditions
are told apart by their sites, and `Plant.findings` keeps the site beside each diagnostic. Deleting
conditions drops findings and touches nothing else, which is shown level by level: for the
conditions of an interlock, the interlocks of a cylinder, and the cylinders. -/

namespace InterlockLadder

/-! ## Elements with their positions -/

section
variable {α : Type} (key : α → UInt32) (xs : List α)

/-- The elements in the order of their keys, each with the position at which it was given. -/
def placed : List (α × Nat) :=
  xs.zipIdx.mergeSort fun x y => key x.1 ≤ key y.1

theorem map_fst_placed : (placed key xs).map Prod.fst = xs.mergeSort fun a b => key a ≤ key b := by
  rw [placed, map_mergeSort_key key fun _ => rfl, List.zipIdx_map_fst]

variable {key xs}

theorem mem_placed {x : α × Nat} : x ∈ placed key xs ↔ xs[x.2]? = some x.1 := by
  rw [placed, List.mem_mergeSort, List.mem_zipIdx_iff_getElem?]

theorem filter_placed (key : α → UInt32) (xs : List α) (n : Nat) :
    (placed key xs).filter (·.2 = n) = xs[n]?.toList.map (·, n) := by
  rw [placed, filter_mergeSort, filter_zipIdx]
  cases xs[n]? with
  | none => exact List.mergeSort_nil
  | some x => exact List.mergeSort_singleton (x, n)

end

/-! ## Sites and findings -/

/-- The position of a cylinder in a plant, of an interlock in it, and of a condition in that. -/
structure Site where
  cylinder : Nat
  interlock : Nat
  condition : Nat
deriving DecidableEq, Repr

/-- A diagnostic, and the site of the condition if it reports the failure of one. -/
structure Finding where
  site? : Option Site
  diagnostic : Diagnostic
deriving DecidableEq, Repr

/-- Whether a finding stays when the conditions at some sites are deleted. -/
def Finding.stays (removed : Site → Bool) (f : Finding) : Bool :=
  f.site?.all (!removed ·)

section
variable (removed : Site → Bool) (site : Site) (d : Diagnostic)

@[simp]
theorem Finding.stays_none : Finding.stays removed ⟨none, d⟩ = true := rfl

@[simp]
theorem Finding.stays_some : Finding.stays removed ⟨some site, d⟩ = !removed site := rfl

end

namespace Condition

/-- The diagnostic of a condition that has no rung. -/
def failure? (s : Scope) (i : Interlock) (d : Condition) : Option Diagnostic :=
  match d.rung s with
  | .ok _ => none
  | .error defect => some (defect.diagnostic s.cylinder i d)

theorem filterMap_sensorNote (s : Scope) (d : Condition) :
    (d.sensorNote s).filterMap Entry.diagnostic? = [] := by
  unfold sensorNote
  split
  · rfl
  · split <;> rfl

theorem filterMap_journal (s : Scope) (i : Interlock) (d : Condition) :
    (d.journal s i).filterMap Entry.diagnostic? = (d.failure? s i).toList := by
  rw [journal, List.filterMap_cons_none rfl, failure?]
  cases d.rung s with
  | ok r => exact d.filterMap_sensorNote s
  | error defect => rfl

end Condition

/-! ## Conditions of an interlock -/

namespace Interlock

/-- The interlock without the conditions at some positions. -/
def without (removed : Nat → Bool) (i : Interlock) : Interlock :=
  { i with conditions := (i.conditions.zipIdx.filter fun x => !removed x.2).map Prod.fst }

/-- The findings of interlock `b` of cylinder `a`, both given by their positions. -/
def findings (s : Scope) (steps : List ProcessStep) (a b : Nat) (i : Interlock) : List Finding :=
  ((i.openingJournal s.options steps s.cylinder).filterMap Entry.diagnostic?).map (⟨none, ·⟩) ++
    match i.opening s.options s.cylinder with
    | .error _ => []
    | .ok _ => (placed Condition.number i.conditions).filterMap fun x =>
        (x.1.failure? s i).map (⟨some ⟨a, b, x.2⟩, ·⟩)

/-- The diagnostic of the condition at a position. -/
def failureAt? (s : Scope) (n : Nat) (i : Interlock) : Option Diagnostic :=
  if i.runMode.isSome then i.conditions[n]?.bind (Condition.failure? s i) else none

variable (s : Scope) (steps : List ProcessStep) (a b : Nat) (i : Interlock)

theorem sortedConditions_without (removed : Nat → Bool) :
    (i.without removed).sortedConditions =
      ((placed Condition.number i.conditions).filter fun x => !removed x.2).map Prod.fst := by
  rw [placed, filter_mergeSort, map_mergeSort_key Condition.number fun _ => rfl]
  rfl

theorem opening_without (removed : Nat → Bool) (o : Options) (c : Cylinder) :
    (i.without removed).opening o c = i.opening o c := rfl

/-- Deleting conditions without a rung keeps the rungs of the interlock. -/
theorem rungs_without {removed : Nat → Bool} (h : ∀ n d, i.conditions[n]? = some d → removed n →
      i.runMode = none ∨ ∃ defect, d.rung s = .error defect) :
    (i.without removed).rungs s = i.rungs s := by
  rw [rungs, rungs, opening_without]
  cases hmode : i.runMode with
  | none =>
    obtain ⟨diagnostic, hopening⟩ := opening_eq_error (o := s.options) (c := s.cylinder) hmode
    rw [hopening]
  | some mode =>
    have hrungs : (i.without removed).sortedConditions.filterMap (fun d => (d.rung s).toOption) =
        i.sortedConditions.filterMap fun d => (d.rung s).toOption := by
      rw [sortedConditions_without, sortedConditions, ← map_fst_placed, List.filterMap_map,
        List.filterMap_map, List.filterMap_filter]
      refine List.filterMap_congr fun x hx => ?_
      cases hremoved : removed x.2 with
      | false => rfl
      | true =>
        -- A removed condition gave no rung before.
        obtain hnone | ⟨defect, hrung⟩ := h x.2 x.1 (mem_placed.mp hx) hremoved
        · simp [hmode] at hnone
        · have hfails : (x.1.rung s).toOption = none := by
            rw [hrung]
            rfl
          exact hfails.symm
    rw [hrungs]

/-- Deleting conditions drops their findings. -/
theorem filterMap_journal_without (removed : Site → Bool) :
    ((i.without fun n => removed ⟨a, b, n⟩).journal s steps).filterMap Entry.diagnostic? =
      ((i.findings s steps a b).filter (Finding.stays removed)).map Finding.diagnostic := by
  have hopening : ∀ ds : List Diagnostic, ((ds.map (⟨none, ·⟩ : Diagnostic → Finding)).filter
      (Finding.stays removed)).map Finding.diagnostic = ds := fun ds => by
    simp [List.filter_map, Function.comp_def]
  rw [journal, List.filterMap_append, List.filterMap_cons_none rfl, findings, List.filter_append,
    List.map_append, hopening, opening_without]
  refine congrArg _ ?_
  cases i.opening s.options s.cylinder with
  | error diagnostic => rfl
  | ok opening =>
    simp only [sortedConditions_without, List.flatMap_map, List.filterMap_flatMap,
      Condition.filterMap_journal, ← List.filterMap_eq_flatMap_toList, List.filterMap_filter,
      List.filter_filterMap, List.map_filterMap]
    refine List.filterMap_congr fun x _ => ?_
    change (if !removed ⟨a, b, x.2⟩ then x.1.failure? s i else none) = _
    cases x.1.failure? s i with
    | none => simp
    | some d => cases hremoved : removed ⟨a, b, x.2⟩ <;> simp [Option.filter_some, hremoved]

/-- All findings of an interlock about a condition have its position. -/
theorem position_of_mem_findings {f : Finding} (hf : f ∈ i.findings s steps a b) {site : Site}
    (hsite : f.site? = some site) : site.cylinder = a ∧ site.interlock = b := by
  obtain hf | hf := List.mem_append.mp hf
  · obtain ⟨d, -, rfl⟩ := List.mem_map.mp hf
    cases hsite
  · cases hopening : i.opening s.options s.cylinder with
    | error diagnostic => simp [hopening] at hf
    | ok opening =>
      rw [hopening] at hf
      obtain ⟨x, -, hx⟩ := List.mem_filterMap.mp hf
      obtain ⟨d, -, rfl⟩ := Option.map_eq_some_iff.mp hx
      cases hsite
      exact ⟨rfl, rfl⟩

/-- A condition has a finding if it has no rung, and never a second one. -/
theorem filter_findings (h : s.cylinder.isAddressable) (n : Nat) :
    (i.findings s steps a b).filter (·.site? = some ⟨a, b, n⟩) =
      (i.failureAt? s n).toList.map (⟨some ⟨a, b, n⟩, ·⟩) := by
  have hopening : ∀ ds : List Diagnostic, (ds.map (⟨none, ·⟩ : Diagnostic → Finding)).filter
      (·.site? = some ⟨a, b, n⟩) = [] := fun ds => by
    simp [List.filter_map, Function.comp_def]
  rw [findings, List.filter_append, hopening, List.nil_append, failureAt?]
  cases hmode : i.runMode with
  | none =>
    obtain ⟨diagnostic, hopening⟩ := opening_eq_error (o := s.options) (c := s.cylinder) hmode
    simp [hopening]
  | some mode =>
    obtain ⟨opening, hopening, -⟩ := exists_opening (o := s.options) h hmode
    have hposition : ∀ x ∈ placed Condition.number i.conditions, x.2 ≠ n →
        ((x.1.failure? s i).map (⟨some ⟨a, b, x.2⟩, ·⟩)).toList.filter
          (fun f : Finding => f.site? = some ⟨a, b, n⟩) = [] := by
      intro x _ hx
      cases x.1.failure? s i <;> simp [hx]
    simp only [hopening, List.filterMap_eq_flatMap_toList]
    rw [filter_flatMap_of_position hposition, filter_placed]
    cases i.conditions[n]? with
    | none => simp
    | some d => cases hfailure : d.failure? s i <;> simp [hfailure]

end Interlock

/-! ## Interlocks of a cylinder -/

namespace Cylinder

/-- The cylinder without the conditions at some positions. -/
def without (removed : Nat → Nat → Bool) (c : Cylinder) : Cylinder :=
  { c with interlocks := c.interlocks.zipIdx.map fun x => x.1.without (removed x.2) }

/-- The findings of the cylinder at position `a`. -/
def findings (p : Plant) (o : Options) (a : Nat) (c : Cylinder) : List Finding :=
  if c.isAddressable then
    (placed Interlock.sortId c.interlocks).flatMap fun x =>
      x.1.findings (c.scope p o) p.processSteps a x.2
  else [⟨none, Offset.outOfRange c⟩]

/-- The diagnostic of the condition at a position in the interlock at a position. -/
def failureAt? (p : Plant) (o : Options) (b n : Nat) (c : Cylinder) : Option Diagnostic :=
  if c.isAddressable then c.interlocks[b]?.bind (Interlock.failureAt? (c.scope p o) n) else none

variable (p : Plant) (o : Options) (a : Nat) (c : Cylinder)

theorem sortedInterlocks_without (removed : Nat → Nat → Bool) :
    (c.without removed).sortedInterlocks =
      (placed Interlock.sortId c.interlocks).map fun x => x.1.without (removed x.2) :=
  (map_mergeSort_key Interlock.sortId (fun _ => rfl) c.interlocks.zipIdx).symm

theorem flatMap_sortedInterlocks_without {α : Type} {f : Interlock → List α}
    {removed : Nat → Nat → Bool}
    (h : ∀ b i, c.interlocks[b]? = some i → f (i.without (removed b)) = f i) :
    (c.without removed).sortedInterlocks.flatMap f = c.sortedInterlocks.flatMap f := by
  rw [sortedInterlocks_without, sortedInterlocks, ← map_fst_placed, List.flatMap_map,
    List.flatMap_map]
  exact List.flatMap_congr fun x hx => h x.2 x.1 (mem_placed.mp hx)

/-- Deleting conditions without a rung keeps the block of the cylinder. -/
theorem items_without {removed : Nat → Nat → Bool}
    (h : ∀ b n i d, c.interlocks[b]? = some i → i.conditions[n]? = some d → removed b n →
      ¬c.isAddressable ∨ i.runMode = none ∨ ∃ defect, d.rung (c.scope p o) = .error defect) :
    (c.without removed).items p o = c.items p o := by
  by_cases haddressable : c.isAddressable
  · have hrungs : ∀ b (i : Interlock), c.interlocks[b]? = some i →
        (i.without (removed b)).rungs (c.scope p o) = i.rungs (c.scope p o) := fun b i hi =>
      i.rungs_without (c.scope p o) fun n d hd hremoved =>
        (h b n i d hi hd hremoved).resolve_left (not_not_intro haddressable)
    have hitems : ∀ b (i : Interlock), c.interlocks[b]? = some i →
        (i.without (removed b)).items (c.scope p o) = i.items (c.scope p o) := fun b i hi => by
      rw [Interlock.items, Interlock.items, hrungs b i hi]
      rfl
    exact items_congr (c.flatMap_sortedInterlocks_without hitems)
      (c.flatMap_sortedInterlocks_without hrungs)
  · have haddressable' : ¬(c.without removed).isAddressable := haddressable
    rw [items, items, if_neg haddressable, if_neg haddressable']

theorem permissionReport_eq_nil {s : Scope} (h : s.cylinder.isAddressable) :
    permissionReport s = [] := by
  rw [permissionReport, Permission.rungs?_eq_some h]

theorem filterMap_journal :
    (c.journal p o).filterMap Entry.diagnostic? =
      if c.isAddressable then c.sortedInterlocks.flatMap fun i =>
        (i.journal (c.scope p o) p.processSteps).filterMap Entry.diagnostic?
      else [Offset.outOfRange c] := by
  rw [journal, List.filterMap_cons_none rfl]
  by_cases h : c.isAddressable
  · rw [if_pos h, if_pos h, permissionReport_eq_nil (s := c.scope p o) h, List.append_nil,
      List.filterMap_flatMap]
  · rw [if_neg h, if_neg h]
    rfl

theorem filterMap_journal_without (removed : Site → Bool) :
    ((c.without fun b n => removed ⟨a, b, n⟩).journal p o).filterMap Entry.diagnostic? =
      ((c.findings p o a).filter (Finding.stays removed)).map Finding.diagnostic := by
  have hscope : (c.without fun b n => removed ⟨a, b, n⟩).scope p o = (c.scope p o).among
      (c.without fun b n => removed ⟨a, b, n⟩).interlocks := rfl
  have haddressable : (c.without fun b n => removed ⟨a, b, n⟩).isAddressable = c.isAddressable :=
    rfl
  rw [filterMap_journal, haddressable, findings]
  by_cases h : c.isAddressable
  · simp only [if_pos h, sortedInterlocks_without, List.flatMap_map, List.filter_flatMap,
      List.map_flatMap, hscope, Interlock.journal_among, Interlock.filterMap_journal_without]
  · rw [if_neg h, if_neg h]
    rfl

theorem position_of_mem_findings {f : Finding} (hf : f ∈ c.findings p o a) {site : Site}
    (hsite : f.site? = some site) : site.cylinder = a := by
  by_cases h : c.isAddressable
  · rw [findings, if_pos h] at hf
    obtain ⟨x, -, hf⟩ := List.mem_flatMap.mp hf
    exact (Interlock.position_of_mem_findings _ _ _ _ _ hf hsite).1
  · rw [findings, if_neg h] at hf
    obtain rfl := List.mem_singleton.mp hf
    cases hsite

theorem filter_findings (b n : Nat) :
    (c.findings p o a).filter (·.site? = some ⟨a, b, n⟩) =
      (c.failureAt? p o b n).toList.map (⟨some ⟨a, b, n⟩, ·⟩) := by
  by_cases h : c.isAddressable
  · have hposition : ∀ x ∈ placed Interlock.sortId c.interlocks, x.2 ≠ b →
        (x.1.findings (c.scope p o) p.processSteps a x.2).filter (·.site? = some ⟨a, b, n⟩) =
          [] := by
      intro x _ hx
      refine List.filter_eq_nil_iff.mpr fun f hf hsite => hx ?_
      exact (Interlock.position_of_mem_findings _ _ _ _ _ hf (of_decide_eq_true hsite)).2.symm
    rw [findings, if_pos h, filter_flatMap_of_position hposition, filter_placed, failureAt?,
      if_pos h]
    cases c.interlocks[b]? with
    | none => rfl
    | some i => simpa using i.filter_findings (c.scope p o) p.processSteps a b h n
  · simp [findings, failureAt?, h]

end Cylinder

/-! ## Cylinders of a plant -/

namespace Plant

/-- The plant without the conditions at some sites. -/
def without (removed : Site → Bool) (p : Plant) : Plant :=
  { p with cylinders := p.cylinders.zipIdx.map fun x => x.1.without fun b n => removed ⟨x.2, b, n⟩ }

def findings (p : Plant) (o : Options) : List Finding :=
  p.cylinders.zipIdx.flatMap fun x => x.1.findings p o x.2

/-- The diagnostic of the condition at a site. -/
def failureAt? (p : Plant) (o : Options) (site : Site) : Option Diagnostic :=
  p.cylinders[site.cylinder]?.bind (Cylinder.failureAt? p o site.interlock site.condition)

/-- The condition at a site has no rung: its cylinder has none at all, its interlock has none, or
the condition itself has a defect. -/
def HasNoRungAt (p : Plant) (o : Options) (site : Site) : Prop :=
  ∀ c i d, p.cylinders[site.cylinder]? = some c → c.interlocks[site.interlock]? = some i →
    i.conditions[site.condition]? = some d →
      ¬c.isAddressable ∨ i.runMode = none ∨ ∃ defect, d.rung (c.scope p o) = .error defect

variable (p : Plant) (o : Options)

theorem rows_without {removed : Site → Bool} (hcylinders : p.cylinders ≠ [])
    (hremoved : ∀ site, removed site → p.HasNoRungAt o site) :
    ((p.without removed).generate o).rows = (p.generate o).rows := by
  have hcylinders' : (p.without removed).cylinders ≠ [] := by simpa [without] using hcylinders
  rw [generate_of_ne_nil o hcylinders', generate_of_ne_nil o hcylinders]
  refine congrArg Item.number ?_
  conv_rhs => rw [← List.zipIdx_map_fst 0 p.cylinders]
  rw [without, List.flatMap_map, List.flatMap_map]
  refine List.flatMap_congr fun x hx => ?_
  rw [Cylinder.items_among_cylinders]
  refine x.1.items_without p o fun b n i d hi hd h => ?_
  exact hremoved ⟨x.2, b, n⟩ h x.1 i d (List.mem_zipIdx_iff_getElem?.mp hx) hi hd

theorem diagnostics_without (removed : Site → Bool) (hcylinders : p.cylinders ≠ []) :
    ((p.without removed).generate o).diagnostics =
      ((p.findings o).filter (Finding.stays removed)).map Finding.diagnostic := by
  have hcylinders' : (p.without removed).cylinders ≠ [] := by simpa [without] using hcylinders
  rw [generate_of_ne_nil o hcylinders', Generation.diagnostics, findings, List.filterMap_flatMap,
    List.filter_flatMap, List.map_flatMap, without, List.flatMap_map]
  simp only [Cylinder.journal_among_cylinders, Cylinder.filterMap_journal_without]

theorem filter_findings (site : Site) :
    (p.findings o).filter (·.site? = some site) =
      (p.failureAt? o site).toList.map (⟨some site, ·⟩) := by
  obtain ⟨a, b, n⟩ := site
  have hposition : ∀ x ∈ p.cylinders.zipIdx, x.2 ≠ a →
      (x.1.findings p o x.2).filter (·.site? = some ⟨a, b, n⟩) = [] := by
    intro x _ hx
    refine List.filter_eq_nil_iff.mpr fun f hf hsite => hx ?_
    exact (x.1.position_of_mem_findings p o x.2 hf (of_decide_eq_true hsite)).symm
  rw [findings, filter_flatMap_of_position hposition, filter_zipIdx, failureAt?]
  cases p.cylinders[a]? with
  | none => rfl
  | some c => simpa using c.filter_findings p o a b n

theorem findings_stay_of_none_removed (fs : List Finding) :
    fs.filter (Finding.stays fun _ => false) = fs :=
  List.filter_eq_self.mpr fun f _ => by cases f with | mk site? d => cases site? <;> rfl

theorem without_none : p.without (fun _ => false) = p := by
  have hinterlock : ∀ i : Interlock, i.without (fun _ => false) = i := fun i => by
    simp [Interlock.without]
  have hcylinder : ∀ c : Cylinder, c.without (fun _ _ => false) = c := fun c => by
    simp [Cylinder.without, hinterlock]
  simp [without, hcylinder]

/-- **Failures are isolated.** Conditions without a rung may be deleted, whichever they are: the
rows stay the same, and of the diagnostics, in their order, only those of the deleted conditions
go. A condition has one diagnostic if its own defect costs it its rung, and otherwise none. -/
theorem generate_without (removed : Site → Bool) (hcylinders : p.cylinders ≠ [])
    (hremoved : ∀ site, removed site → p.HasNoRungAt o site) :
    ((p.without removed).generate o).rows = (p.generate o).rows ∧
      (p.generate o).diagnostics = (p.findings o).map Finding.diagnostic ∧
      ((p.without removed).generate o).diagnostics =
        ((p.findings o).filter (Finding.stays removed)).map Finding.diagnostic ∧
      ∀ site, (p.findings o).filter (·.site? = some site) =
        (p.failureAt? o site).toList.map (⟨some site, ·⟩) := by
  -- The plant as it is comes from removing nothing.
  have hall := p.diagnostics_without o (fun _ => false) hcylinders
  rw [without_none, findings_stay_of_none_removed] at hall
  exact ⟨p.rows_without o hcylinders hremoved, hall, p.diagnostics_without o removed hcylinders,
    p.filter_findings o⟩

end Plant

/-- A press with two conditions that fail, one for want of a device and one of an unknown type. -/
def faultyPress : Plant where
  cylinders := [{ press with interlocks := [{ pressLock with conditions :=
    [pressOverride, { pressOverride with number := 2, device := none },
      { pressOverride with number := 3, kind := .unrecognized 9 }] }] }]
  sensors := []
  processSteps := []

/-- Without the first failure, the second is still reported. -/
theorem generate_faultyPress :
    faultyPress.cylinders ≠ [] ∧
      (∀ site, site == ⟨0, 0, 1⟩ → faultyPress.HasNoRungAt .default site) ∧
      ((faultyPress.without (· == ⟨0, 0, 1⟩)).generate .default).rows =
        (faultyPress.generate .default).rows ∧
      (faultyPress.generate .default).diagnostics.map Diagnostic.code = ["G0101", "G0104"] ∧
      ((faultyPress.without (· == ⟨0, 0, 1⟩)).generate .default).diagnostics.map
        Diagnostic.code = ["G0104"] := by
  have hcylinders : faultyPress.cylinders ≠ [] := nofun
  have hremoved : ∀ site, site == ⟨0, 0, 1⟩ → faultyPress.HasNoRungAt .default site := by
    intro site hsite c i d hc hi hd
    obtain rfl := eq_of_beq hsite
    obtain rfl := Option.some.inj hc
    obtain rfl := Option.some.inj hi
    obtain rfl := Option.some.inj hd
    exact .inr (.inr ⟨.missingDevice, rfl⟩)
  obtain ⟨hrows, hbefore, hafter, -⟩ :=
    faultyPress.generate_without .default (· == ⟨0, 0, 1⟩) hcylinders hremoved
  refine ⟨hcylinders, hremoved, hrows, ?_⟩
  rw [hbefore, hafter]
  cbv

end InterlockLadder
