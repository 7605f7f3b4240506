import InterlockLadder.Proofs.Blocks
import InterlockLadder.Proofs.SingleCoils

/-! The numbers of generated rows. Every row takes the next key and every instruction the next step,
counted in 32 bits; what a skipped record would have added takes neither. As long as a listing is
short enough for its keys, both counters are exact wherever they are read
(`Item.toNat_countersFrom`), so the keys and the steps have no gaps
(`Source.rows_numbered_without_gaps`). -/

namespace InterlockLadder

/-- How a row continues the rows in front of it. Its key is one more than they are. It is a
statement and nothing else, or an instruction whose step is the number of instructions among them.
-/
inductive Row.IsNext (front : List Row) : Row → Prop
  | statement {key : UInt32} (hkey : key.toNat = front.length + 1) (text : String) :
      IsNext front { key, statement := some text }
  | instruction {key : UInt32} (hkey : key.toNat = front.length + 1) (op : Opcode)
      (operand : String) :
      IsNext front
        { key, opcode := op.mnemonic, operand
          step := toString (front.countP (·.statement.isNone)) }

namespace Item

variable {key step : UInt32} {items : List Item}

/-- In a short listing neither counter wraps around: behind the items they hold the numbers of
rows and of instructions. -/
theorem toNat_countersFrom (h : items.length < UInt32.size - 1) :
    (countersFrom 1 0 items).1.toNat = (number items).length + 1 ∧
      (countersFrom 1 0 items).2.toNat = (number items).countP (·.statement.isNone) := by
  have hcount : items.countP isInstruction ≤ items.length := List.countP_le_length
  have hkey : 1 + items.length < UInt32.size := by omega
  have hstep : items.countP isInstruction < UInt32.size := by omega
  rw [countersFrom_eq, number, length_numberFrom, countP_numberFrom]
  constructor
  · rw [UInt32.toNat_add, UInt32.toNat_ofNat', Nat.add_mod_mod, UInt32.toNat_one, Nat.add_comm]
    exact Nat.mod_eq_of_lt (Nat.add_comm _ _ ▸ hkey)
  · rw [UInt32.zero_add, UInt32.toNat_ofNat']
    exact Nat.mod_eq_of_lt hstep

/-- The items of a listing split where its rows do. -/
theorem exists_of_numberFrom_eq {front back : List Row} {row : Row}
    (h : numberFrom key step items = front ++ row :: back) :
    ∃ items₁ item items₂, items = items₁ ++ item :: items₂ ∧ front = numberFrom key step items₁ ∧
      row = item.row (countersFrom key step items₁).1 (countersFrom key step items₁).2 := by
  have hlength : front.length < items.length := by
    have hsum := congrArg List.length h
    rw [length_numberFrom, List.length_append, List.length_cons] at hsum
    omega
  obtain ⟨item, items₂, hdrop⟩ := List.exists_cons_of_length_pos
    (l := items.drop front.length) (by rw [List.length_drop]; omega)
  have hitems : items = items.take front.length ++ item :: items₂ := by
    rw [← hdrop, List.take_append_drop]
  rw [hitems, numberFrom_append_countersFrom] at h
  obtain ⟨hfront, hrest⟩ := List.append_inj h (by
    rw [length_numberFrom, List.length_take, Nat.min_eq_left hlength.le])
  exact ⟨_, item, items₂, hitems, hfront.symm, (List.cons.inj hrest).1.symm⟩

/-- The steps of the instructions count on from the first one. -/
theorem map_step_filter_numberFrom (h : step.toNat + items.countP isInstruction < UInt32.size) :
    ((numberFrom key step items).filter (·.statement.isNone)).map Row.step =
      (List.range' step.toNat (items.countP isInstruction)).map toString := by
  induction items generalizing key step with
  | nil => rfl
  | cons item items ih =>
    cases item with
    | statement text =>
      have hcount : (statement text :: items).countP isInstruction = items.countP isInstruction :=
        List.countP_cons_of_neg Bool.false_ne_true
      rw [hcount] at h ⊢
      have hsteps : step + (statement text).steps = step := UInt32.add_zero step
      rw [numberFrom, List.filter_cons_of_neg (by simp [row]), hsteps, ih h]
    | instruction i =>
      have hcount : (instruction i :: items).countP isInstruction =
          items.countP isInstruction + 1 := List.countP_cons_of_pos rfl
      rw [hcount] at h ⊢
      have hlt : step.toNat + 1 < UInt32.size := by omega
      have hnext : (step + (instruction i).steps).toNat = step.toNat + 1 := by
        rw [UInt32.toNat_add]
        exact Nat.mod_eq_of_lt hlt
      rw [numberFrom, List.filter_cons_of_pos (by rfl), List.map_cons, ih (by omega), hnext,
        List.range'_succ, List.map_cons]
      rfl

/-- Every row continues those in front of it. -/
theorem isNext_of_number_eq {front back : List Row} {row : Row}
    (hlength : items.length < UInt32.size - 1) (h : number items = front ++ row :: back) :
    row.IsNext front := by
  obtain ⟨items₁, item, items₂, rfl, rfl, rfl⟩ := exists_of_numberFrom_eq h
  have hfront : items₁.length < UInt32.size - 1 := by
    rw [List.length_append] at hlength
    omega
  obtain ⟨hkey, hstep⟩ := toNat_countersFrom hfront
  cases item with
  | statement text => exact .statement hkey text
  | instruction i =>
    have hinstruction := Row.IsNext.instruction hkey i.opcode i.operand
    rwa [← hstep] at hinstruction

end Item

namespace Source

variable (o : Options) (source : Source)

/-- The steps of the instructions are the numbers from 0 on. -/
theorem map_step_filter_rows (hlength : (source.rows o).length < UInt32.size) :
    ((source.rows o).filter (·.statement.isNone)).map Row.step =
      (List.range ((source.rows o).countP (·.statement.isNone))).map toString := by
  rw [rows_eq, Item.number, Item.length_numberFrom] at hlength
  have hcount : (source.items o).countP Item.isInstruction ≤ (source.items o).length :=
    List.countP_le_length
  rw [rows_eq, Item.number, Item.map_step_filter_numberFrom (by rw [UInt32.toNat_zero]; omega),
    Item.countP_numberFrom, UInt32.toNat_zero, List.range_eq_range']

/-- **Keys and steps have no gaps.** In a listing that is short enough, every row continues those in
front of it. So the keys are the numbers from 1 on, and the steps of the instructions those from 0
on, each of which occurs once. Behind any of the items, and behind all of them, both counters hold
how many rows and instructions there are so far: neither has wrapped around. -/
theorem rows_numbered_without_gaps (hlength : (source.rows o).length < UInt32.size - 1) :
    (∀ front row back, source.rows o = front ++ row :: back → row.IsNext front) ∧
      (source.rows o).map (·.key.toNat) = List.range' 1 (source.rows o).length ∧
      ((source.rows o).filter (·.statement.isNone)).map Row.step =
        (List.range ((source.rows o).countP (·.statement.isNone))).map toString ∧
      (((source.rows o).filter (·.statement.isNone)).map Row.step).Nodup ∧
      ∀ front back, source.items o = front ++ back →
        source.rows o = Item.number front ++
          Item.numberFrom (Item.countersFrom 1 0 front).1 (Item.countersFrom 1 0 front).2 back ∧
        (Item.countersFrom 1 0 front).1.toNat = (Item.number front).length + 1 ∧
        (Item.countersFrom 1 0 front).2.toNat =
          (Item.number front).countP (·.statement.isNone) := by
  have hsteps := source.map_step_filter_rows o (by omega)
  have hitems : (source.items o).length < UInt32.size - 1 := by
    rwa [rows_eq, Item.number, Item.length_numberFrom] at hlength
  refine ⟨?_, ?_, hsteps, ?_, ?_⟩
  · intro front row back hrows
    rw [rows_eq] at hrows
    exact Item.isNext_of_number_eq hitems hrows
  · rw [rows_eq, Item.number, Item.length_numberFrom]
    exact Item.map_key_numberFrom (by rw [UInt32.toNat_one]; omega)
  · rw [hsteps]
    exact List.nodup_range.map repr_injective
  · intro front back hsplit
    rw [hsplit, List.length_append] at hitems
    refine ⟨?_, Item.toNat_countersFrom (by omega)⟩
    rw [rows_eq, hsplit]
    exact Item.numberFrom_append_countersFrom 1 0 front back

/-- The cylinder without numbers, which stands second, takes no number. -/
theorem rows_pressLine : ((plant Plant.pressLine).rows .default).length < UInt32.size - 1 ∧
    ((plant Plant.pressLine).rows .default).map (·.key.toNat) = List.range' 1 52 ∧
    (((plant Plant.pressLine).rows .default).filter (·.statement.isNone)).map Row.step =
      (List.range 40).map toString := by
  have hcounts : ((plant Plant.pressLine).items .default).length = 52 ∧
      ((plant Plant.pressLine).items .default).countP Item.isInstruction = 40 := by cbv
  have hlength : ((plant Plant.pressLine).rows .default).length = 52 := by
    rw [rows_eq, Item.number, Item.length_numberFrom, hcounts.1]
  have hcount : ((plant Plant.pressLine).rows .default).countP (·.statement.isNone) = 40 := by
    rw [rows_eq, Item.number, Item.countP_numberFrom, hcounts.2]
  have hshort : ((plant Plant.pressLine).rows .default).length < UInt32.size - 1 := by
    rw [hlength]
    decide
  obtain ⟨-, hkeys, hsteps, -, -⟩ :=
    rows_numbered_without_gaps .default (plant Plant.pressLine) hshort
  rw [hlength] at hkeys
  rw [hcount] at hsteps
  exact ⟨hshort, hkeys, hsteps⟩

end Source

end InterlockLadder
