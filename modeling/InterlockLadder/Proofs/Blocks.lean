import InterlockLadder.Proofs.Acceptance
import InterlockLadder.Proofs.Surroundings
import Mathlib.Data.List.Permutation

/-! The listing of a plant, put together from the listings of its cylinders. Each cylinder may be
generated alone: within the whole, its keys and steps only count on from what stands before
(`Row.shift`, `Plant.generate_blockwise`). -/

namespace InterlockLadder

/-! ## Shifted rows -/

/-- The row behind `keys` further rows, of which `steps` are instructions. A row without a step
gets none. -/
def Row.shift (keys steps : Nat) (row : Row) : Row :=
  { row with
    key := .ofNat (row.key.toNat + keys)
    step := if row.step = "" then "" else toString (Nat.ofDigitChars 10 row.step.toList 0 + steps) }

example : Row.shift 26 20 { key := 3, step := "0", opcode := "LD", operand := "M1010" } =
    { key := 29, step := "20", opcode := "LD", operand := "M1010" } := by decide +kernel

namespace Item

variable {key step : UInt32} {keys steps : Nat}

theorem shift_row (item : Item) (h : step.toNat + steps < UInt32.size) :
    (item.row key step).shift keys steps =
      item.row (key + .ofNat keys) (step + .ofNat steps) := by
  have hkey : UInt32.ofNat (key.toNat + keys) = key + .ofNat keys := by
    rw [UInt32.ofNat_add, UInt32.ofNat_toNat]
  cases item with
  | statement text => simp [Row.shift, row, hkey]
  | instruction i =>
    have hstep : (step + UInt32.ofNat steps).toNat = step.toNat + steps := by
      rw [UInt32.toNat_add, UInt32.toNat_ofNat', Nat.add_mod_mod, Nat.mod_eq_of_lt h]
    simp [Row.shift, row, hkey, hstep]

theorem toNat_add_steps_le (item : Item) : (step + item.steps).toNat ≤ step.toNat + 1 := by
  have hsteps : item.steps.toNat ≤ 1 := by
    cases h : item.isInstruction <;> simp [steps, h]
  rw [UInt32.toNat_add]
  exact Nat.le_trans (Nat.mod_le _ _) (Nat.add_le_add_left hsteps _)

theorem map_shift_numberFrom {items : List Item}
    (h : step.toNat + steps + items.length ≤ UInt32.size) :
    (numberFrom key step items).map (Row.shift keys steps) =
      numberFrom (key + .ofNat keys) (step + .ofNat steps) items := by
  induction items generalizing key step with
  | nil => rfl
  | cons item items ih =>
    have hnext : (step + item.steps).toNat ≤ step.toNat + 1 := item.toNat_add_steps_le
    have hcomm : ∀ a b c : UInt32, a + b + c = a + c + b := fun a b c => by
      rw [UInt32.add_assoc, UInt32.add_comm b, ← UInt32.add_assoc]
    rw [List.length_cons] at h
    rw [numberFrom, numberFrom, List.map_cons, shift_row item (by omega), ih (by omega), hcomm key,
      hcomm step]

/-- The keys count on from the first one, as long as they do not wrap around. -/
theorem map_key_numberFrom {items : List Item} (h : key.toNat + items.length < UInt32.size) :
    (numberFrom key step items).map (·.key.toNat) = List.range' key.toNat items.length := by
  induction items generalizing key step with
  | nil => rfl
  | cons item items ih =>
    rw [List.length_cons] at h
    have hkey : (item.row key step).key = key := by cases item <;> rfl
    have hlt : key.toNat + 1 < UInt32.size := by omega
    have hnext : (key + 1).toNat = key.toNat + 1 := by
      rw [UInt32.toNat_add]
      exact Nat.mod_eq_of_lt hlt
    rw [numberFrom, List.map_cons, hkey, ih (by omega), hnext, List.length_cons, List.range'_succ]

theorem toNat_key_of_mem_numberFrom {items : List Item} {row : Row}
    (h : key.toNat + items.length < UInt32.size) (hrow : row ∈ numberFrom key step items) :
    row.key.toNat < key.toNat + items.length := by
  have hkey := List.mem_map_of_mem (f := fun row : Row => row.key.toNat) hrow
  rw [map_key_numberFrom h, List.mem_range'_1] at hkey
  exact hkey.2

theorem countP_numberFrom (items : List Item) :
    (numberFrom key step items).countP (·.statement.isNone) = items.countP isInstruction := by
  induction items generalizing key step with
  | nil => rfl
  | cons item items ih =>
    rw [numberFrom, List.countP_cons, List.countP_cons, ih]
    cases item <;> rfl

/-- Items in several parts have the rows of each part, shifted behind the parts before it. -/
theorem number_flatMap {α : Type} (f : α → List Item) (xs : List α)
    (h : (xs.flatMap f).length ≤ UInt32.size) :
    number (xs.flatMap f) = (xs.mapIdx fun position x =>
      (number (f x)).map (Row.shift ((xs.take position).flatMap f).length
        (((xs.take position).flatMap f).countP isInstruction))).flatten := by
  -- The parts that stand before grow from step to step of the induction.
  suffices hfront : ∀ front : List α, (front.flatMap f).length + (xs.flatMap f).length ≤
      UInt32.size →
      numberFrom (1 + .ofNat (front.flatMap f).length)
          (0 + .ofNat ((front.flatMap f).countP isInstruction)) (xs.flatMap f) =
        (xs.mapIdx fun position x =>
          (number (f x)).map (Row.shift ((front ++ xs.take position).flatMap f).length
            (((front ++ xs.take position).flatMap f).countP isInstruction))).flatten by
    exact hfront [] (by rwa [List.flatMap_nil, List.length_nil, Nat.zero_add])
  induction xs with
  | nil => intro front _; rfl
  | cons x xs ih =>
    intro front hfront
    rw [List.flatMap_cons, List.length_append] at hfront h
    have hcount : (front.flatMap f).countP isInstruction ≤ (front.flatMap f).length :=
      List.countP_le_length
    have hrest := ih (by omega) (front ++ [x]) (by
      rw [List.flatMap_append, List.length_append, List.flatMap_singleton]
      omega)
    simp only [List.flatMap_append, List.flatMap_singleton, List.length_append, List.countP_append,
      UInt32.ofNat_add, ← UInt32.add_assoc] at hrest
    have hshift : (number (f x)).map (Row.shift (front.flatMap f).length
        ((front.flatMap f).countP isInstruction)) =
          numberFrom (1 + .ofNat (front.flatMap f).length)
            (0 + .ofNat ((front.flatMap f).countP isInstruction)) (f x) :=
      map_shift_numberFrom (by rw [UInt32.toNat_zero]; omega)
    rw [List.flatMap_cons, numberFrom_append, List.mapIdx_cons, List.flatten_cons, hrest,
      List.take_zero, List.append_nil, hshift]
    simp [Nat.add_assoc]

end Item

/-! ## Cylinders and plants -/

namespace Cylinder

variable (p : Plant) (o : Options) (c : Cylinder)

/-- The block of a cylinder begins with the statement of an interlock or of a permission. -/
theorem exists_items_eq_cons (h : c.isAddressable) : ∃ text items,
    c.items p o = .statement text :: items ∧ Text.isBlank text = false := by
  rw [items_eq h]
  cases c.sortedInterlocks with
  | nil => exact ⟨_, _, rfl, Permission.isBlank_statement c ⟨"forward manual", _, _⟩⟩
  | cons i is => exact ⟨_, _, rfl, by simp⟩

/-- The first row of a block drops what is on the stack. -/
theorem isComment_of_mem_head? {row : Row} (hrow : row ∈ (p.generateCylinder o c).rows.head?) :
    row.isComment := by
  change row ∈ (Item.number (c.items p o)).head? at hrow
  by_cases h : c.isAddressable
  · obtain ⟨text, items, hitems, htext⟩ := c.exists_items_eq_cons p o h
    rw [hitems] at hrow
    cases hrow
    exact Item.isComment_row_statement 1 0 htext
  · rw [items_of_not_isAddressable p o c h] at hrow
    cases hrow

end Cylinder

namespace Plant

variable (p : Plant) (o : Options)

/-- The rows of the cylinders before a position, each cylinder generated alone. -/
def rowsBefore (position : Nat) : List Row :=
  (p.cylinders.take position).flatMap fun c => (p.generateCylinder o c).rows

theorem rows_generate :
    (p.generate o).rows = Item.number (p.cylinders.flatMap (Cylinder.items p o)) :=
  Source.rows_eq o (.plant p)

theorem length_flatMap_rows (cs : List Cylinder) :
    (cs.flatMap fun c => (p.generateCylinder o c).rows).length =
      (cs.flatMap (Cylinder.items p o)).length := by
  rw [List.length_flatMap, List.length_flatMap]
  simp only [generateCylinder, Item.number, Item.length_numberFrom]

theorem countP_flatMap_rows (cs : List Cylinder) :
    (cs.flatMap fun c => (p.generateCylinder o c).rows).countP (·.statement.isNone) =
      (cs.flatMap (Cylinder.items p o)).countP Item.isInstruction := by
  rw [List.countP_flatMap, List.countP_flatMap]
  refine congrArg List.sum (List.map_congr_left fun c _ => ?_)
  exact Item.countP_numberFrom (c.items p o)

theorem length_rowsBefore_add_le {position : Nat} {c : Cylinder}
    (hc : p.cylinders[position]? = some c) :
    (p.rowsBefore o position).length + (p.generateCylinder o c).rows.length ≤
      (p.generate o).rows.length := by
  have htake : p.cylinders.take (position + 1) = p.cylinders.take position ++ [c] := by
    rw [List.take_add_one, hc, Option.toList_some]
  have hsplit := congrArg (fun cs => (cs.flatMap fun c => (p.generateCylinder o c).rows).length)
    (List.take_append_drop (position + 1) p.cylinders)
  simp only [htake, List.flatMap_append, List.length_append, List.flatMap_singleton] at hsplit
  rw [rows_generate, Item.number, Item.length_numberFrom, ← length_flatMap_rows, ← hsplit]
  exact Nat.le_add_right _ _

theorem flatMap_items_filter (cs : List Cylinder) :
    (cs.filter Cylinder.isAddressable).flatMap (Cylinder.items p o) =
      cs.flatMap (Cylinder.items p o) := by
  induction cs with
  | nil => rfl
  | cons c cs ih =>
    by_cases h : c.isAddressable
    · rw [List.filter_cons_of_pos h, List.flatMap_cons, List.flatMap_cons, ih]
    · rw [List.filter_cons_of_neg h, List.flatMap_cons, c.items_of_not_isAddressable p o h, ih,
        List.nil_append]

/-- **A plant is generated block by block.** Its listing is that of its cylinders one behind the
other, the keys shifted by the rows before them and the steps by the instructions before them, and
no number wraps around. Its diagnostics are those of the cylinders one behind the other. No
expression reaches into the next block, and cylinders out of range have no part in the listing. -/
theorem generate_blockwise (hne : p.cylinders ≠ [])
    (hlength : (p.generate o).rows.length < UInt32.size - 1) :
    (p.generate o).rows =
        (p.cylinders.mapIdx fun position c => (p.generateCylinder o c).rows.map
          (Row.shift (p.rowsBefore o position).length
            ((p.rowsBefore o position).countP (·.statement.isNone)))).flatten ∧
      (∀ position c, p.cylinders[position]? = some c → ∀ row ∈ (p.generateCylinder o c).rows,
        row.key.toNat + (p.rowsBefore o position).length < UInt32.size) ∧
      (p.generate o).diagnostics =
        p.cylinders.flatMap (fun c => (p.generateCylinder o c).diagnostics) ∧
      (∀ c, ∀ row ∈ (p.generateCylinder o c).rows.head?, row.isComment) ∧
      ({ p with cylinders := p.cylinders.filter Cylinder.isAddressable }.generate o).rows =
        (p.generate o).rows := by
  refine ⟨?_, ?_, ?_, fun c row hrow => c.isComment_of_mem_head? p o hrow, ?_⟩
  · have hsize : (p.cylinders.flatMap (Cylinder.items p o)).length ≤ UInt32.size := by
      rw [rows_generate, Item.number, Item.length_numberFrom] at hlength
      exact Nat.le_of_lt (Nat.lt_trans hlength (by decide))
    rw [rows_generate, Item.number_flatMap _ _ hsize]
    simp only [rowsBefore, length_flatMap_rows, countP_flatMap_rows]
    rfl
  · intro position c hc row hrow
    have htotal := p.length_rowsBefore_add_le o hc
    have hsize : (c.items p o).length = (p.generateCylinder o c).rows.length :=
      (Item.length_numberFrom 1 0 _).symm
    have hkey : row.key.toNat < (1 : UInt32).toNat + (c.items p o).length :=
      Item.toNat_key_of_mem_numberFrom (by rw [UInt32.toNat_one]; omega) hrow
    rw [UInt32.toNat_one] at hkey
    omega
  · rw [generate_of_ne_nil o hne, Generation.diagnostics, List.filterMap_flatMap]
    rfl
  · rw [rows_generate, rows_generate]
    exact congrArg Item.number (p.flatMap_items_filter o p.cylinders)

/-- Two presses, and between them one whose devices have no numbers. -/
def pressLine : Plant where
  cylinders := [press, { press with base := 4294967290 }, { press with base := 3000 }]
  sensors := []
  processSteps := []

/-- The second block stands behind the 26 rows and 20 instructions of the first. -/
theorem generate_pressLine : pressLine.cylinders ≠ [] ∧
    (pressLine.generate .default).rows.length < UInt32.size - 1 ∧
    (pressLine.generate .default).rows =
      (pressLine.generateCylinder .default press).rows.map (Row.shift 0 0) ++
        (pressLine.generateCylinder .default { press with base := 3000 }).rows.map
          (Row.shift 26 20) ∧
    (pressLine.generate .default).diagnostics =
      [Offset.outOfRange { press with base := 4294967290 }] := by
  have hne : pressLine.cylinders ≠ [] := nofun
  have hcounts : (pressLine.cylinders.flatMap (Cylinder.items pressLine .default)).length = 52 ∧
      ((pressLine.cylinders.take 2).flatMap (Cylinder.items pressLine .default)).length = 26 ∧
      ((pressLine.cylinders.take 2).flatMap
        (Cylinder.items pressLine .default)).countP Item.isInstruction = 20 := by cbv
  have hkeys : (pressLine.rowsBefore .default 2).length = 26 := by
    rw [rowsBefore, length_flatMap_rows, hcounts.2.1]
  have hsteps : (pressLine.rowsBefore .default 2).countP (·.statement.isNone) = 20 := by
    rw [rowsBefore, countP_flatMap_rows, hcounts.2.2]
  have hshort : (pressLine.generate .default).rows.length < UInt32.size - 1 := by
    rw [rows_generate, Item.number, Item.length_numberFrom, hcounts.1]
    decide
  obtain ⟨hrows, -, hdiagnostics, -, -⟩ := generate_blockwise pressLine .default hne hshort
  have hfirst : (pressLine.rowsBefore .default 0) = [] := rfl
  have hnothing : (pressLine.generateCylinder .default
      { press with base := 4294967290 }).rows = [] := by decide
  refine ⟨hne, hshort, ?_, ?_⟩
  · rw [hrows, show pressLine.cylinders =
      [press, { press with base := 4294967290 }, { press with base := 3000 }] from rfl]
    simp [hfirst, hkeys, hsteps, hnothing]
  · rw [hdiagnostics]
    cbv

end Plant

end InterlockLadder
