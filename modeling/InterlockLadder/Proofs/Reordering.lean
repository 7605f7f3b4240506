import InterlockLadder.Proofs.Simulation
import InterlockLadder.Proofs.Lists
import InterlockLadder.Proofs.Surroundings
import Mathlib.Data.List.Forall2

/-! The order in which the records of a plant are given. Interlocks, conditions and IO points are
lowered in the order of their keys, and records with equal keys in the order in which they are
given. So a plant may be sorted first (`Plant.generate_normal`), and plants that differ by
permutations which sorting undoes have the same sorted form (`Plant.Rearranged.normal_eq`). -/

namespace InterlockLadder

/-! ## Rearranged plants -/

/-- What may happen to a list, given the keys by which it is sorted. -/
def Rearrangement : Type 1 :=
  ∀ {α : Type}, (α → UInt32) → List α → List α → Prop

/-- Any permutation. -/
def Permuted : Rearrangement := fun _ xs ys => xs.Perm ys

variable (P : Rearrangement)

/-- The IO points are rearranged. -/
def Condition.Rearranged (d d' : Condition) : Prop :=
  ∃ ios, P IoPoint.index d.ios ios ∧ d' = { d with ios }

/-- The conditions are rearranged, each of them and their list. -/
def Interlock.Rearranged (i i' : Interlock) : Prop :=
  ∃ ds ds', List.Forall₂ (Condition.Rearranged P) i.conditions ds ∧
    P Condition.number ds ds' ∧ i' = { i with conditions := ds' }

/-- The interlocks are rearranged, each of them and their list. -/
def Cylinder.Rearranged (c c' : Cylinder) : Prop :=
  ∃ is is', List.Forall₂ (Interlock.Rearranged P) c.interlocks is ∧
    P Interlock.sortId is is' ∧ c' = { c with interlocks := is' }

/-- The cylinders are rearranged, but not their list. -/
def Plant.Rearranged (p p' : Plant) : Prop :=
  ∃ cs, List.Forall₂ (Cylinder.Rearranged P) p.cylinders cs ∧ p' = { p with cylinders := cs }

/-! ## Sorted plants -/

theorem mergeSort_mergeSort_key {α : Type} (key : α → UInt32) (xs : List α) :
    ((xs.mergeSort fun a b => key a ≤ key b).mergeSort fun a b => key a ≤ key b) =
      xs.mergeSort fun a b => key a ≤ key b :=
  List.mergeSort_of_pairwise ((pairwise_mergeSort_key key xs).imp decide_eq_true)

namespace Condition

def normal (d : Condition) : Condition :=
  { d with ios := d.sortedIos }

variable (s : Scope) (d : Condition)

theorem sortedIos_normal : d.normal.sortedIos = d.sortedIos :=
  mergeSort_mergeSort_key IoPoint.index d.ios

theorem logic_normal : d.normal.logic s = d.logic s := by
  simp only [logic, sortedIos_normal]
  rfl

theorem rung_normal : d.normal.rung s = d.rung s := by
  simp only [rung, logic_normal]
  rfl

theorem journal_normal (i : Interlock) : d.normal.journal s i = d.journal s i := by
  simp only [journal, rung_normal]
  rfl

end Condition

namespace Interlock

def normal (i : Interlock) : Interlock :=
  { i with conditions := i.sortedConditions.map Condition.normal }

variable (s : Scope) (i : Interlock)

theorem sortedConditions_normal :
    i.normal.sortedConditions = i.sortedConditions.map Condition.normal :=
  (map_mergeSort_key Condition.number (fun _ => rfl) i.sortedConditions).symm.trans
    (congrArg (List.map Condition.normal) (mergeSort_mergeSort_key Condition.number i.conditions))

theorem rungs_normal : i.normal.rungs s = i.rungs s := by
  simp only [rungs, sortedConditions_normal, List.filterMap_map, Function.comp_def,
    Condition.rung_normal]
  rfl

theorem items_normal : i.normal.items s = i.items s := by
  simp only [items, rungs_normal]
  rfl

theorem journal_normal (steps : List ProcessStep) :
    i.normal.journal s steps = i.journal s steps := by
  simp only [journal, sortedConditions_normal, List.flatMap_map, Condition.journal_normal]
  rfl

end Interlock

namespace Cylinder

def normal (c : Cylinder) : Cylinder :=
  { c with interlocks := c.sortedInterlocks.map Interlock.normal }

variable (p : Plant) (o : Options) (c : Cylinder)

theorem sortedInterlocks_normal :
    c.normal.sortedInterlocks = c.sortedInterlocks.map Interlock.normal :=
  (map_mergeSort_key Interlock.sortId (fun _ => rfl) c.sortedInterlocks).symm.trans
    (congrArg (List.map Interlock.normal) (mergeSort_mergeSort_key Interlock.sortId c.interlocks))

theorem flatMap_sortedInterlocks_normal {α : Type} {f : Interlock → List α}
    (h : ∀ i : Interlock, f i.normal = f i) :
    c.normal.sortedInterlocks.flatMap f = c.sortedInterlocks.flatMap f := by
  simp only [sortedInterlocks_normal, List.flatMap_map, h]

theorem items_normal : c.normal.items p o = c.items p o :=
  items_congr (c.flatMap_sortedInterlocks_normal (Interlock.items_normal (c.scope p o)))
    (c.flatMap_sortedInterlocks_normal (Interlock.rungs_normal (c.scope p o)))

theorem journal_normal : c.normal.journal p o = c.journal p o := by
  have hlength : c.normal.interlocks.length = c.interlocks.length := by
    simp [normal, sortedInterlocks]
  exact journal_congr hlength
    (c.flatMap_sortedInterlocks_normal fun i => i.journal_normal (c.scope p o) p.processSteps)
    (c.flatMap_sortedInterlocks_normal (Interlock.rungs_normal (c.scope p o)))

end Cylinder

def Plant.normal (p : Plant) : Plant :=
  { p with cylinders := p.cylinders.map Cylinder.normal }

/-- A plant may be sorted before it is generated. -/
theorem Plant.generate_normal (p : Plant) (o : Options) : p.normal.generate o = p.generate o := by
  have hitems : p.normal.cylinders.flatMap (Cylinder.items p.normal o) =
      p.cylinders.flatMap (Cylinder.items p o) := by
    simp only [normal, List.flatMap_map, Cylinder.items_among_cylinders, Cylinder.items_normal]
  have hjournal : p.normal.cylinders.flatMap (Cylinder.journal p.normal o) =
      p.cylinders.flatMap (Cylinder.journal p o) := by
    simp only [normal, List.flatMap_map, Cylinder.journal_among_cylinders, Cylinder.journal_normal]
  have hempty : p.normal.cylinders.isEmpty = p.cylinders.isEmpty := List.isEmpty_map
  rw [generate, generate, hempty, hitems, hjournal]

/-! ## Rearranged plants have the same sorted form -/

theorem map_eq_of_forall₂ {α β γ : Type} {R : α → β → Prop} {f : α → γ} {g : β → γ} {xs : List α}
    {ys : List β} (hf : ∀ a b, R a b → f a = g b) (h : List.Forall₂ R xs ys) :
    xs.map f = ys.map g := by
  induction h with
  | nil => rfl
  | cons hab _ ih => rw [List.map_cons, List.map_cons, hf _ _ hab, ih]

/-- Elements that are changed one by one and then permuted have the same sorted forms. -/
theorem map_mergeSort_eq_of_forall₂ {α : Type} {R : α → α → Prop} {f : α → α} {key : α → UInt32}
    {xs ys zs : List α} (hkey : ∀ a, key (f a) = key a) (hf : ∀ a b, R a b → f a = f b)
    (h : List.Forall₂ R xs ys) (h' : StablyPermuted key ys zs) :
    (xs.mergeSort fun a b => key a ≤ key b).map f =
      (zs.mergeSort fun a b => key a ≤ key b).map f := by
  rw [map_mergeSort_key key hkey, map_eq_of_forall₂ hf h, ← map_mergeSort_key key hkey,
    h'.mergeSort_eq]

theorem Condition.Rearranged.normal_eq {d d' : Condition} (h : d.Rearranged @StablyPermuted d') :
    d.normal = d'.normal := by
  obtain ⟨ios, hios, rfl⟩ := h
  exact congrArg (fun ios => { d with ios }) hios.mergeSort_eq

theorem Interlock.Rearranged.normal_eq {i i' : Interlock} (h : i.Rearranged @StablyPermuted i') :
    i.normal = i'.normal := by
  obtain ⟨ds, ds', hds, hds', rfl⟩ := h
  have hsorted : i.sortedConditions.map Condition.normal =
      { i with conditions := ds' }.sortedConditions.map Condition.normal :=
    map_mergeSort_eq_of_forall₂ (fun _ => rfl) (fun _ _ h => h.normal_eq) hds hds'
  exact congrArg (fun conditions => { i with conditions }) hsorted

theorem Cylinder.Rearranged.normal_eq {c c' : Cylinder} (h : c.Rearranged @StablyPermuted c') :
    c.normal = c'.normal := by
  obtain ⟨is, is', his, his', rfl⟩ := h
  have hsorted : c.sortedInterlocks.map Interlock.normal =
      { c with interlocks := is' }.sortedInterlocks.map Interlock.normal :=
    map_mergeSort_eq_of_forall₂ (fun _ => rfl) (fun _ _ h => h.normal_eq) his his'
  exact congrArg (fun interlocks => { c with interlocks }) hsorted

theorem Plant.Rearranged.normal_eq {p p' : Plant} (h : p.Rearranged @StablyPermuted p') :
    p.normal = p'.normal := by
  obtain ⟨cs, hcs, rfl⟩ := h
  exact congrArg (fun cylinders => { p with cylinders })
    (map_eq_of_forall₂ (fun _ _ h => h.normal_eq) hcs)

/-! ## Plants with distinct keys -/

/-- No two IO points of a condition have the same index. -/
def Condition.HasDistinctKeys (d : Condition) : Prop :=
  (d.ios.map IoPoint.index).Nodup

/-- No two conditions of the interlock have the same number, and so on below them. -/
def Interlock.HasDistinctKeys (i : Interlock) : Prop :=
  (i.conditions.map Condition.number).Nodup ∧ ∀ d ∈ i.conditions, d.HasDistinctKeys

/-- No two interlocks of the cylinder have the same sort id, and so on below them. -/
def Cylinder.HasDistinctKeys (c : Cylinder) : Prop :=
  (c.interlocks.map Interlock.sortId).Nodup ∧ ∀ i ∈ c.interlocks, i.HasDistinctKeys

def Plant.HasDistinctKeys (p : Plant) : Prop :=
  ∀ c ∈ p.cylinders, c.HasDistinctKeys

theorem forall₂_imp_of_mem {α β : Type} {R S : α → β → Prop} {xs : List α} {ys : List β}
    (h : ∀ a ∈ xs, ∀ b, R a b → S a b) (hxs : List.Forall₂ R xs ys) : List.Forall₂ S xs ys := by
  induction hxs with
  | nil => exact .nil
  | cons hab _ ih =>
    obtain ⟨ha, hxs⟩ := List.forall_mem_cons.mp h
    exact .cons (ha _ hab) (ih hxs)

/-- A permutation of elements that were changed one by one before, but not in their keys. -/
theorem stablyPermuted_of_forall₂ {α : Type} {R : α → α → Prop} {key : α → UInt32}
    {xs ys zs : List α} (hkey : ∀ a b, R a b → key a = key b) (h : List.Forall₂ R xs ys)
    (h' : ys.Perm zs) (hxs : (xs.map key).Nodup) : StablyPermuted key ys zs :=
  .of_nodup h' (map_eq_of_forall₂ hkey h ▸ hxs)

theorem Condition.Rearranged.stable {d d' : Condition} (hd : d.HasDistinctKeys)
    (h : d.Rearranged @Permuted d') : d.Rearranged @StablyPermuted d' := by
  obtain ⟨ios, hios, rfl⟩ := h
  exact ⟨ios, .of_nodup hios hd, rfl⟩

theorem Interlock.Rearranged.stable {i i' : Interlock} (hi : i.HasDistinctKeys)
    (h : i.Rearranged @Permuted i') : i.Rearranged @StablyPermuted i' := by
  obtain ⟨ds, ds', hds, hds', rfl⟩ := h
  obtain ⟨hnumbers, hconditions⟩ := hi
  have hkey : ∀ d d' : Condition, d.Rearranged @Permuted d' → d.number = d'.number := by
    rintro d _ ⟨ios, -, rfl⟩
    rfl
  exact ⟨ds, ds', forall₂_imp_of_mem (fun d hd _ => .stable (hconditions d hd)) hds,
    stablyPermuted_of_forall₂ hkey hds hds' hnumbers, rfl⟩

theorem Cylinder.Rearranged.stable {c c' : Cylinder} (hc : c.HasDistinctKeys)
    (h : c.Rearranged @Permuted c') : c.Rearranged @StablyPermuted c' := by
  obtain ⟨is, is', his, his', rfl⟩ := h
  obtain ⟨hsortIds, hinterlocks⟩ := hc
  have hkey : ∀ i i' : Interlock, i.Rearranged @Permuted i' → i.sortId = i'.sortId := by
    rintro i _ ⟨ds, ds', -, -, rfl⟩
    rfl
  exact ⟨is, is', forall₂_imp_of_mem (fun i hi _ => .stable (hinterlocks i hi)) his,
    stablyPermuted_of_forall₂ hkey his his' hsortIds, rfl⟩

theorem Plant.Rearranged.stable {p p' : Plant} (hp : p.HasDistinctKeys)
    (h : p.Rearranged @Permuted p') : p.Rearranged @StablyPermuted p' := by
  obtain ⟨cs, hcs, rfl⟩ := h
  exact ⟨cs, forall₂_imp_of_mem (fun c hc _ => .stable (hp c hc)) hcs, rfl⟩

/-- **The order of the records does not matter beyond their keys.** If the IO points, the
conditions and the interlocks of a plant are permuted so that those with equal keys keep their
order, its rows and its whole journal stay the same, and with them the diagnostics. Where all keys
differ, this holds for every permutation. -/
theorem Plant.generate_of_rearranged (p p' : Plant) (o : Options) :
    (p.Rearranged @StablyPermuted p' → p'.generate o = p.generate o) ∧
      (p.HasDistinctKeys → p.Rearranged @Permuted p' → p'.generate o = p.generate o) := by
  have hstable : p.Rearranged @StablyPermuted p' → p'.generate o = p.generate o := by
    intro h
    rw [← generate_normal p, ← generate_normal p', h.normal_eq]
  exact ⟨hstable, fun hp h => hstable (h.stable hp)⟩

/-- The press with the given conditions. -/
def pressWith (ds : List Condition) : Plant where
  cylinders := [{ press with interlocks := [{ pressLock with conditions := ds }] }]
  sensors := []
  processSteps := []

def pressGuard (ios : List IoPoint) : Condition :=
  { pressOverride with number := 2, device := some "M101", ios }

theorem rearranged_pressWith {P : Rearrangement} {ds ds' ds'' : List Condition}
    (hds : List.Forall₂ (Condition.Rearranged P) ds ds') (hds' : P Condition.number ds' ds'')
    (hself : ∀ i, P Interlock.sortId [i] [i]) :
    (pressWith ds).Rearranged P (pressWith ds'') :=
  ⟨_, .cons ⟨_, _, .cons ⟨ds', ds'', hds, hds', rfl⟩ .nil, hself _, rfl⟩ .nil, rfl⟩

/-- Of three IO points two have the same index; only the third may change its place. -/
theorem generate_pressWith :
    (pressWith [pressGuard [⟨1, "X3", .on⟩, ⟨0, "X1", .on⟩, ⟨0, "X2", .on⟩]]).Rearranged
        @StablyPermuted
        (pressWith [pressGuard [⟨0, "X1", .on⟩, ⟨1, "X3", .on⟩, ⟨0, "X2", .on⟩]]) ∧
      (pressWith [pressGuard [⟨0, "X1", .on⟩, ⟨1, "X3", .on⟩, ⟨0, "X2", .on⟩]]).generate .default =
        (pressWith [pressGuard [⟨1, "X3", .on⟩, ⟨0, "X1", .on⟩, ⟨0, "X2", .on⟩]]).generate
          .default ∧
      (pressWith [pressOverride, pressGuard [⟨0, "X1", .on⟩]]).HasDistinctKeys ∧
      (pressWith [pressOverride, pressGuard [⟨0, "X1", .on⟩]]).Rearranged @Permuted
        (pressWith [pressGuard [⟨0, "X1", .on⟩], pressOverride]) ∧
      (pressWith [pressGuard [⟨0, "X1", .on⟩], pressOverride]).generate .default =
        (pressWith [pressOverride, pressGuard [⟨0, "X1", .on⟩]]).generate .default := by
  have hself : ∀ {α : Type} {key : α → UInt32} (a : α), StablyPermuted key [a] [a] :=
    fun a => ⟨.refl _, fun _ => rfl⟩
  have hstable := rearranged_pressWith (P := @StablyPermuted)
    (.cons (⟨_, .swap (x := ⟨1, "X3", .on⟩) (y := ⟨0, "X1", .on⟩) (by decide) [⟨0, "X2", .on⟩],
      rfl⟩ : (pressGuard _).Rearranged @StablyPermuted (pressGuard _)) .nil) (hself _) hself
  have hdistinct : (pressWith [pressOverride, pressGuard [⟨0, "X1", .on⟩]]).HasDistinctKeys := by
    simp only [Plant.HasDistinctKeys, Cylinder.HasDistinctKeys, Interlock.HasDistinctKeys,
      Condition.HasDistinctKeys, pressWith, List.forall_mem_singleton, List.forall_mem_cons]
    decide
  have hpermuted : (pressWith [pressOverride, pressGuard [⟨0, "X1", .on⟩]]).Rearranged @Permuted
      (pressWith [pressGuard [⟨0, "X1", .on⟩], pressOverride]) :=
    rearranged_pressWith (.cons ⟨_, .refl _, rfl⟩ (.cons ⟨_, .refl _, rfl⟩ .nil)) (.swap _ _ _)
      fun _ => .refl _
  exact ⟨hstable, (Plant.generate_of_rearranged _ _ .default).1 hstable, hdistinct, hpermuted,
    (Plant.generate_of_rearranged _ _ .default).2 hdistinct hpermuted⟩

end InterlockLadder
