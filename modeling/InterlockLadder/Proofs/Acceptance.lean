import InterlockLadder.Check.Listing
import InterlockLadder.Proofs.DoubleCoils
import InterlockLadder.Proofs.SoundItems
import InterlockLadder.Proofs.StackAbstraction

/-! The validator accepts what is generated. Generated rows are never stuck, so the expressions of
the validator have nothing to say about them but which operands are missing
(`Expression.rowIssues_of_execute`), and only the signals of the run modes can be missing
(`Row.lacksOperand_row`). What remains are double coils. -/

namespace InterlockLadder

open StackMachine (execute start)

/-! ## Rows that are not stuck -/

namespace Row

/-- Whether the row has an instruction that reads its operand, and no operand. -/
def lacksOperand (row : Row) : Bool :=
  (row.opcode?.any fun op => op.family.isContact || op.family = .consume) && row.hasBlankOperand

theorem lacksOperand_of_opcode? {row : Row} {op : Opcode} (h : row.opcode? = some op) :
    row.lacksOperand = ((op.family.isContact || op.family = .consume) && row.hasBlankOperand) := by
  rw [lacksOperand, h]
  rfl

theorem opcode?_of_isComment {row : Row} (h : row.isComment) : row.opcode? = none := by
  cases hop : row.opcode? with
  | none => rfl
  | some op => simp [isComment, hasBlankOpcode_of_opcode? hop] at h

end Row

namespace Expression

variable {e : Expression} {height : Nat} {mark : String}

/-- The only thing wrong about an instruction that finds enough values is a missing operand. -/
theorem issues_of_le (h : e.Tracks height) {row : Row} {op : Opcode} (hop : row.opcode? = some op)
    (hcall : op.family ≠ .call) (henough : op.family.takes ≤ height) :
    e.issues mark row = if row.lacksOperand then [.error row .missingOperand] else [] := by
  have hopen := h.isOpen
  have hbranches := h.branches
  rw [issues, Row.role_of_opcode? hop, Row.lacksOperand_of_opcode? hop]
  cases hf : op.family with
  | load inverted => simp [instructionIssues, operandIssues, Opcode.Family.isContact]
  | logic =>
    have hpos : 0 < height := by rwa [hf] at henough
    simp [instructionIssues, operandIssues, Opcode.Family.isContact, hopen, hpos]
  | consume =>
    have hpos : 0 < height := by rwa [hf] at henough
    simp [instructionIssues, operandIssues, Opcode.Family.isContact, hopen, hpos]
  | block =>
    have htwo : 2 ≤ height := by rwa [hf] at henough
    have hpos : 0 < height := by omega
    have hne : height - 1 ≠ 0 := by omega
    simp [instructionIssues, Opcode.Family.isContact, hopen, hbranches, hpos, hne]
  | call => exact absurd hf hcall
  | separator | noop => simp [instructionIssues, Opcode.Family.isContact]

variable {μ α : Type} {I : Interpretation μ α}

/-- About rows that are comments or instructions other than calls, and that a machine executes
without being stuck, the validator only says which operands are missing. -/
theorem rowIssues_of_execute {rows : List Row} {m m' : StackMachine μ α}
    (h : e.Tracks m.stack.length)
    (hrows : ∀ row ∈ rows, row.isComment ∨ ∃ op, row.opcode? = some op ∧ op.family ≠ .call)
    (hexecute : m.execute I rows = some m') :
    e.rowIssues mark rows =
        (rows.filter Row.lacksOperand).map (Issue.error · .missingOperand) ∧
      (e.after rows).Tracks m'.stack.length := by
  induction rows generalizing e m with
  | nil =>
    cases hexecute
    exact ⟨rfl, h⟩
  | cons row rows ih =>
    obtain ⟨hrow, hrows⟩ := List.forall_mem_cons.mp hrows
    rw [StackMachine.execute_cons] at hexecute
    obtain ⟨m₁, hstep, hexecute⟩ := Option.bind_eq_some_iff.mp hexecute
    have hnext : (e.next row).Tracks m₁.stack.length := by
      have hadvance : m.advance I row = m₁ := by rw [StackMachine.advance, hstep, Option.getD_some]
      exact hadvance ▸ h.next row
    have hissues : e.issues mark row =
        if row.lacksOperand then [.error row .missingOperand] else [] := by
      obtain hcomment | ⟨op, hop, hcall⟩ := hrow
      · have hnone := Row.opcode?_of_isComment hcomment
        simp [issues, Row.role_of_isComment hcomment, Row.lacksOperand, hnone]
      -- The machine is not stuck at the row, so the stack is high enough for it.
      · refine issues_of_le h hop hcall (Nat.not_lt.mp fun hlow => ?_)
        have hstuck := (StackMachine.step_eq_none_iff I).mpr ⟨op, hop, hlow⟩
        rw [hstuck] at hstep
        cases hstep
    obtain ⟨hrest, hafter⟩ := ih hnext hrows hexecute
    refine ⟨?_, hafter⟩
    rw [rowIssues, hissues, hrest, List.filter_cons]
    cases row.lacksOperand <;> rfl

/-- A listing that leaves no more than one value has no unresolved branches. -/
theorem listingIssues_of_execute {rows : List Row} {memory : μ} {m : StackMachine μ α}
    (hrows : ∀ row ∈ rows, row.isComment ∨ ∃ op, row.opcode? = some op ∧ op.family ≠ .call)
    (hexecute : (start memory).execute I rows = some m) (hlow : m.stack.length ≤ 1) :
    listingIssues mark rows =
      (rows.filter Row.lacksOperand).map (Issue.error · .missingOperand) := by
  have hstart : ({} : Expression).Tracks (start (α := α) memory).stack.length := .empty
  obtain ⟨hissues, hafter⟩ := rowIssues_of_execute hstart hrows hexecute
  have hbranches : (after {} rows).branches = 0 := by
    rw [hafter.branches]
    omega
  rw [listingIssues, hissues, endIssues, if_pos hbranches, List.append_nil]

end Expression

/-! ## Rows of sound items -/

/-- The device that a row sets with `OUT`, as it stands there. -/
def Row.coil? (row : Row) : Option String :=
  if row.opcode? = some .out then some row.operand else none

/-- Whether the row is the gate of a run mode whose signal has no text. -/
def Row.isBlankGate (o : Options) (row : Row) : Bool :=
  row.hasBlankOperand && [RunMode.auto, .manual, .always].any fun mode =>
    row.opcode = (mode.signal o).opcode.mnemonic && row.operand = (mode.signal o).operand

/-- Whether the signals of all run modes have a text. -/
def Options.hasSignals (o : Options) : Bool :=
  !Text.isBlank o.manualPauseSignal && !Text.isBlank o.autoPauseSignal &&
    !Text.isBlank o.alwaysOnSignal

theorem Row.isBlankGate_of_hasSignals {o : Options} (h : o.hasSignals) (row : Row) :
    row.isBlankGate o = false := by
  refine Bool.eq_false_iff.mpr fun hgate => ?_
  obtain ⟨hblank, hgate⟩ := Bool.and_eq_true_iff.mp hgate
  obtain ⟨mode, -, hmode⟩ := List.any_eq_true.mp hgate
  obtain ⟨-, hoperand⟩ := Bool.and_eq_true_iff.mp hmode
  have hsignal : Text.isBlank (mode.signal o).operand = false := by
    cases mode <;> simp_all [Options.hasSignals, RunMode.signal]
  rw [hasBlankOperand, of_decide_eq_true hoperand, hsignal] at hblank
  cases hblank

theorem Row.lacksOperand_of_isBlankGate {o : Options} {row : Row} (h : row.isBlankGate o) :
    row.lacksOperand := by
  obtain ⟨hblank, hgate⟩ := Bool.and_eq_true_iff.mp h
  obtain ⟨mode, -, hmode⟩ := List.any_eq_true.mp hgate
  obtain ⟨hopcode, -⟩ := Bool.and_eq_true_iff.mp hmode
  have hop : row.opcode? = some (mode.signal o).opcode := by
    rw [opcode?, of_decide_eq_true hopcode, Opcode.parse?_mnemonic]
  rw [lacksOperand_of_opcode? hop, hblank]
  cases mode <;> rfl

namespace Item

variable {o : Options} {item : Item} {key step : UInt32}

theorem isComment_or_exists_opcode? (h : item.IsSound o) : (item.row key step).isComment ∨
    ∃ op, (item.row key step).opcode? = some op ∧ op.family ≠ .call := by
  cases h with
  | statement htext => exact .inl (isComment_row_statement key step htext)
  | logic h =>
    refine .inr ⟨_, opcode?_row_instruction key step _, ?_⟩
    cases h with
    | signal mode => cases mode <;> nofun
    | contact hop =>
      intro hcall
      rw [hcall] at hop
      cases hop
    | block hop =>
      rw [hop]
      nofun
  | output hop =>
    refine .inr ⟨_, opcode?_row_instruction key step _, ?_⟩
    rw [hop]
    nofun
  | nop => exact .inr ⟨.nop, opcode?_row_instruction key step _, nofun⟩

/-- Only the gate of a run mode can lack its operand. -/
theorem lacksOperand_row (h : item.IsSound o) :
    (item.row key step).lacksOperand = (item.row key step).isBlankGate o := by
  have hgate : (item.row key step).lacksOperand → (item.row key step).isBlankGate o := by
    intro hlacks
    obtain ⟨hreads, hblank⟩ := Bool.and_eq_true_iff.mp hlacks
    cases h with
    | statement htext =>
      rw [opcode?_row_statement] at hreads
      cases hreads
    | logic h =>
      rw [opcode?_row_instruction] at hreads
      cases h with
      | signal mode =>
        refine Bool.and_eq_true_iff.mpr ⟨hblank, List.any_eq_true.mpr ⟨mode, ?_, ?_⟩⟩
        · cases mode <;> decide
        · simp [row]
      | contact hop hoperand =>
        rw [Row.hasBlankOperand, operand_row_instruction, hoperand] at hblank
        cases hblank
      | block hop => simp [hop, Opcode.Family.isContact] at hreads
    | output hop hoperand =>
      rw [Row.hasBlankOperand, operand_row_instruction, hoperand] at hblank
      cases hblank
    | nop =>
      rw [opcode?_row_instruction] at hreads
      cases hreads
  exact Bool.eq_iff_iff.mpr ⟨hgate, Row.lacksOperand_of_isBlankGate⟩

theorem coil?_row (item : Item) (key step : UInt32) : (item.row key step).coil? = item.coil? := by
  cases item with
  | statement text => simp [Row.coil?, opcode?_row_statement, coil?]
  | instruction i => simp [Row.coil?, coil?]

theorem IsSound.isBlank_of_coil? (h : item.IsSound o) {device : String}
    (hcoil : item.coil? = some device) : Text.isBlank device = false := by
  cases h with
  | statement => cases hcoil
  | logic h => simp [coil?, h.ne_out] at hcoil
  | output hop hoperand =>
    obtain ⟨-, hdevice⟩ := Option.ite_none_right_eq_some.mp hcoil
    cases hdevice
    exact hoperand
  | nop => cases hcoil

/-- The validator sees the coils without the blanks around them and in capital letters. -/
theorem device?_row (h : item.IsSound o) : DoubleCoil.device? (item.row key step) =
    item.coil?.map fun device => Text.upper (Text.trim device) := by
  rw [← coil?_row item key step, DoubleCoil.device?, Row.coil?]
  by_cases hop : (item.row key step).opcode? = some .out
  · have hcoil : item.coil? = some (item.row key step).operand := by
      rw [← coil?_row, Row.coil?, if_pos hop]
    have hblank : (item.row key step).hasBlankOperand = false := h.isBlank_of_coil? hcoil
    simp [hop, hblank]
  · simp [hop]

end Item

/-! ## Generated streams -/

namespace Cylinder

/-- The devices that a cylinder sets: those of its conditions and those of its permissions. -/
def coils (p : Plant) (o : Options) (c : Cylinder) : List String :=
  if c.isAddressable then (c.assignments p o).map Assignment.device else []

variable (p : Plant) (o : Options) (c : Cylinder)

theorem items_of_not_isAddressable (h : ¬ c.isAddressable) : c.items p o = [] := by
  simp [items, h]

theorem exists_implements_items : ∃ as, Implements (c.items p o) as := by
  by_cases h : c.isAddressable
  · exact ⟨_, implements_items h⟩
  · rw [items_of_not_isAddressable p o c h]
    exact ⟨[], .nil⟩

theorem isSound_of_mem {item : Item} (hitem : item ∈ c.items p o) : item.IsSound o := by
  by_cases h : c.isAddressable
  · exact isSound_of_mem_items h item hitem
  · rw [items_of_not_isAddressable p o c h] at hitem
    cases hitem

theorem filterMap_coil?_eq_coils : (c.items p o).filterMap Item.coil? = c.coils p o := by
  by_cases h : c.isAddressable
  · rw [filterMap_coil?_items h, coils, if_pos h]
  · rw [items_of_not_isAddressable p o c h, coils, if_neg h]
    rfl

end Cylinder

/-- What a stream of rows is generated for. -/
inductive Source where
  | plant (p : Plant)
  | cylinder (p : Plant) (c : Cylinder)

namespace Source

def rows (o : Options) : Source → List Row
  | plant p => (p.generate o).rows
  | cylinder p c => (p.generateCylinder o c).rows

/-- The devices that a stream sets, as its records name them. -/
def coils (o : Options) : Source → List String
  | plant p => p.cylinders.flatMap (Cylinder.coils p o)
  | cylinder p c => c.coils p o

/-- Streams one behind the other. -/
def listing (o : Options) (sources : List Source) : List Row :=
  sources.flatMap (rows o)

def items (o : Options) : Source → List Item
  | plant p => p.cylinders.flatMap (Cylinder.items p o)
  | cylinder p c => c.items p o

variable (o : Options) (source : Source)

theorem rows_eq : source.rows o = Item.number (source.items o) := by
  cases source with
  | cylinder p c => rfl
  | plant p =>
    rw [rows, Plant.generate, items]
    split
    · next hempty =>
      rw [List.isEmpty_iff.mp hempty]
      rfl
    · rfl

theorem isSound_of_mem_items {item : Item} (hitem : item ∈ source.items o) : item.IsSound o := by
  cases source with
  | cylinder p c => exact c.isSound_of_mem p o hitem
  | plant p =>
    obtain ⟨c, -, hitem⟩ := List.mem_flatMap.mp hitem
    exact c.isSound_of_mem p o hitem

theorem filterMap_coil?_items : (source.items o).filterMap Item.coil? = source.coils o := by
  cases source with
  | cylinder p c => exact c.filterMap_coil?_eq_coils p o
  | plant p =>
    have hcylinders : ∀ c ∈ p.cylinders, (c.items p o).filterMap Item.coil? = c.coils p o :=
      fun c _ => c.filterMap_coil?_eq_coils p o
    rw [items, List.filterMap_flatMap, List.flatMap_def, List.map_congr_left hcylinders]
    rfl

theorem exists_implements_items : ∃ as, Implements (source.items o) as := by
  cases source with
  | cylinder p c => exact c.exists_implements_items p o
  | plant p =>
    have hcylinders : ∀ cs : List Cylinder,
        ∃ as, Implements (cs.flatMap (Cylinder.items p o)) as := by
      intro cs
      induction cs with
      | nil => exact ⟨[], .nil⟩
      | cons c cs ih =>
        obtain ⟨as, hcylinder⟩ := c.exists_implements_items p o
        obtain ⟨as', hcylinders⟩ := ih
        exact ⟨as ++ as', hcylinder.append hcylinders⟩
    exact hcylinders p.cylinders

variable (sources : List Source)

/-- Generated streams are never stuck, and they leave no more than one value behind. -/
theorem exists_execute_listing (m : StackMachine Memory Bool) (hm : m.stack.length ≤ 1) :
    ∃ m', m.execute ladder (listing o sources) = some m' ∧ m'.stack.length ≤ 1 := by
  induction sources generalizing m with
  | nil => exact ⟨m, rfl, hm⟩
  | cons source sources ih =>
    obtain ⟨as, himplements⟩ := source.exists_implements_items o
    obtain ⟨stack, hexecute, hlow⟩ := himplements 1 0 m
    obtain ⟨m', hrest, hlow'⟩ := ih ⟨_, stack⟩ (hlow hm)
    refine ⟨m', ?_, hlow'⟩
    rw [listing, List.flatMap_cons, StackMachine.execute_append, rows_eq, Item.number, hexecute]
    exact hrest

/-- Every row is the row of a sound item. -/
theorem exists_of_mem_listing {row : Row} (h : row ∈ listing o sources) :
    ∃ (item : Item) (key step : UInt32), item.IsSound o ∧ row = item.row key step := by
  obtain ⟨source, -, hrow⟩ := List.mem_flatMap.mp h
  rw [rows_eq] at hrow
  obtain ⟨item, hitem, key, step, rfl⟩ := Item.exists_of_mem_numberFrom 1 0 hrow
  exact ⟨item, key, step, source.isSound_of_mem_items o hitem, rfl⟩

theorem filterMap_coil?_listing :
    (listing o sources).filterMap Row.coil? = sources.flatMap (coils o) := by
  have hrows : ∀ source ∈ sources, (rows o source).filterMap Row.coil? = coils o source := by
    intro source _
    rw [rows_eq, ← filterMap_coil?_items]
    exact Item.filterMap_numberFrom 1 0 fun item _ => item.coil?_row
  rw [listing, List.filterMap_flatMap, List.flatMap_def, List.map_congr_left hrows,
    List.flatMap_def]

theorem filterMap_device?_listing : (listing o sources).filterMap DoubleCoil.device? =
    (sources.flatMap (coils o)).map fun device => Text.upper (Text.trim device) := by
  have hrows : ∀ source ∈ sources, (rows o source).filterMap DoubleCoil.device? =
      (coils o source).map fun device => Text.upper (Text.trim device) := by
    intro source _
    rw [rows_eq, ← filterMap_coil?_items, List.map_filterMap]
    exact Item.filterMap_numberFrom 1 0 fun item hitem key step =>
      Item.device?_row (source.isSound_of_mem_items o hitem)
  rw [listing, List.filterMap_flatMap, List.flatMap_def, List.map_congr_left hrows,
    List.map_flatMap, List.flatMap_def]

theorem listingIssues_listing (mark : String) : Expression.listingIssues mark (listing o sources) =
    ((listing o sources).filter (Row.isBlankGate o)).map (Issue.error · .missingOperand) := by
  obtain ⟨m, hexecute, hlow⟩ :=
    exists_execute_listing o sources (start fun _ => false) (Nat.zero_le 1)
  have hrows : ∀ row ∈ listing o sources,
      row.isComment ∨ ∃ op, row.opcode? = some op ∧ op.family ≠ .call := by
    intro row hrow
    obtain ⟨item, key, step, hitem, rfl⟩ := exists_of_mem_listing o sources hrow
    exact Item.isComment_or_exists_opcode? hitem
  have hgates : (listing o sources).filter Row.lacksOperand =
      (listing o sources).filter (Row.isBlankGate o) := by
    refine List.filter_congr fun row hrow => ?_
    obtain ⟨item, key, step, hitem, rfl⟩ := exists_of_mem_listing o sources hrow
    exact Item.lacksOperand_row hitem
  rw [Expression.listingIssues_of_execute hrows hexecute hlow, hgates]

/-- **What is generated is accepted**, in whatever order and however often the streams occur. The
expressions of the validator only miss the operands of the gates whose signal has no text. If all
signals have one, nothing is left but double coils, and there is none exactly if the devices that
the streams set differ, apart from blanks around them and the case of letters. -/
theorem validate_listing (mark : String) :
    Expression.listingIssues mark (listing o sources) =
        ((listing o sources).filter (Row.isBlankGate o)).map (Issue.error · .missingOperand) ∧
      (listing o sources).filterMap Row.coil? = sources.flatMap (coils o) ∧
      (o.hasSignals →
        (∀ issue ∈ validate mark (listing o sources),
          issue.problem = .duplicateOutput ∧ issue.severity = .warning) ∧
        (validate mark (listing o sources) = [] ↔ ((sources.flatMap (coils o)).map fun device =>
          Text.upper (Text.trim device)).Nodup)) := by
  refine ⟨listingIssues_listing o sources mark, filterMap_coil?_listing o sources,
    fun hsignals => ?_⟩
  have hgates : (listing o sources).filter (Row.isBlankGate o) = [] :=
    List.filter_eq_nil_iff.mpr fun row _ => by simp [Row.isBlankGate_of_hasSignals hsignals]
  have hvalidate : validate mark (listing o sources) = DoubleCoil.issues (listing o sources) := by
    rw [validate, listingIssues_listing, hgates]
    rfl
  rw [hvalidate]
  refine ⟨fun issue hissue => DoubleCoil.problem_of_mem_issuesFrom hissue, ?_⟩
  rw [DoubleCoil.issues_eq_nil_iff, filterMap_device?_listing]

theorem coils_press (o : Options) : (cylinder .empty press).coils o =
    ["M100", "M1017", "M1015", "M1018", "M1016"] := by
  have hc : press.isAddressable := by decide
  rw [coils, Cylinder.coils, if_pos hc]
  simp only [Cylinder.assignments, conditionAssignments_press]
  change "M100" :: permissionOffsets.map (fun offsets => press.address offsets.2) = _
  decide

/-- One press sets five devices; a second listing of it sets them again. -/
theorem validate_press : Options.default.hasSignals ∧
    validate "K" (listing .default [cylinder .empty press]) = [] ∧
    validate "K" (listing .default [cylinder .empty press, cylinder .empty press]) ≠ [] := by
  have hsignals : Options.default.hasSignals := by decide
  obtain ⟨-, -, hone⟩ := validate_listing .default [cylinder .empty press] "K"
  obtain ⟨-, -, htwo⟩ :=
    validate_listing .default [cylinder .empty press, cylinder .empty press] "K"
  refine ⟨hsignals, (hone hsignals).2.mpr ?_, fun hnil => ?_⟩
  · rw [List.flatMap_singleton, coils_press]
    decide +kernel
  · have hnodup := (htwo hsignals).2.mp hnil
    rw [List.flatMap_cons, List.flatMap_singleton, coils_press] at hnodup
    exact absurd hnodup (by decide +kernel)

end Source

end InterlockLadder
