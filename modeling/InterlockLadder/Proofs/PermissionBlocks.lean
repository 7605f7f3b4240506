import InterlockLadder.Proofs.Census
import InterlockLadder.Proofs.SingleCoils
import Mathlib.Data.List.SplitBy

/-! The permissions of a cylinder, read off a listing alone. Only the last row of a block bears a
`NOP`, so a listing falls into its blocks when it is split behind these rows, and the permissions
at the end of a block negate what its other rungs set (`Plant.blocks_generate`). -/

namespace InterlockLadder

/-- The pieces of a list behind whose last elements it is split. -/
theorem splitBy_flatten_of_closed {α : Type} {closes : α → Bool} {pieces : List (List α)}
    (h : ∀ piece ∈ pieces, ∃ front last, piece = front ++ [last] ∧ closes last ∧
      ∀ a ∈ front, closes a = false) :
    pieces.flatten.splitBy (fun a _ => !closes a) = pieces := by
  have hnonempty : ∀ piece ∈ pieces, piece ≠ [] := by
    intro piece hpiece
    obtain ⟨front, last, rfl, -⟩ := h piece hpiece
    exact List.append_ne_nil_of_right_ne_nil front (List.cons_ne_nil last [])
  refine List.splitBy_flatten (fun hnil => hnonempty [] hnil rfl) ?_ ?_
  · intro piece hpiece
    obtain ⟨front, last, rfl, -, hfront⟩ := h piece hpiece
    have hopen : ∀ a ∈ front, !closes a := fun a ha => by rw [hfront a ha]; rfl
    refine List.Pairwise.isChain (List.pairwise_append.mpr ⟨?_, List.pairwise_singleton _ _, ?_⟩)
    · exact List.pairwise_of_forall_mem_list fun a ha _ _ => hopen a ha
    · exact fun a ha _ _ => hopen a ha
  · refine List.Pairwise.isChain (List.pairwise_of_forall_mem_list ?_)
    intro piece hpiece next hnext
    refine ⟨hnonempty piece hpiece, hnonempty next hnext, ?_⟩
    obtain ⟨front, last, rfl, hlast, -⟩ := h piece hpiece
    rw [List.getLast_append_singleton, hlast]
    rfl

theorem forall_mem_of_forall₂ {α β : Type} {R : α → β → Prop} {P : β → Prop}
    (h : ∀ a b, R a b → P b) {xs : List α} {ys : List β} (hxs : List.Forall₂ R xs ys) :
    ∀ b ∈ ys, P b := by
  induction hxs with
  | nil => exact List.forall_mem_nil P
  | cons hab _ ih => exact List.forall_mem_cons.mpr ⟨h _ _ hab, ih⟩

namespace Row

/-- What a row does or says, whatever its numbers are. -/
def content (row : Row) : String × String × Option String :=
  (row.opcode, row.operand, row.statement)

/-- The instruction of a row with its operand. -/
def instruction? (row : Row) : Option Instruction :=
  row.opcode?.map (⟨·, row.operand⟩)

/-- The parts of a listing, split behind each row that bears a `NOP`. -/
def blocks (rows : List Row) : List (List Row) :=
  rows.splitBy fun row _ => !decide (row.opcode? = some .nop)

/-- The rows of a permission: a statement, the request, the negation of every output in turn, and
the device that permits the move. -/
def IsPermission (c : Cylinder) (outputs : List String) (offsets : Nat × Nat)
    (rung : List Row) : Prop :=
  ∃ statement rows, rung = statement :: rows ∧ statement.isComment ∧
    rows.map instruction? = some ⟨.ld, c.address offsets.1⟩ ::
      outputs.map (fun device => some ⟨.ani, device⟩) ++ [some ⟨.out, c.address offsets.2⟩]

end Row

/-- The rows are the block of the cylinder. They end with four permissions and a `NOP`; the
permissions negate what the rows before them set, and that is what the lowered conditions of the
cylinder set. -/
structure Cylinder.IsBlock (p : Plant) (o : Options) (c : Cylinder) (rows : List Row) : Prop where
  content : rows.map Row.content = (p.generateCylinder o c).rows.map Row.content
  permissions : ∃ front rungs closing, rows = front ++ rungs.flatten ++ [closing] ∧
    closing.opcode? = some .nop ∧ List.Forall₂ (Row.IsPermission c (front.filterMap Row.coil?))
      [(10, 17), (12, 15), (11, 18), (13, 16)] rungs ∧
    ∀ device, device ∈ front.filterMap Row.coil? ↔ ∃ i d r, c.Lowers p o i d r ∧ r.device = device

namespace Item

def instruction? : Item → Option Instruction
  | statement _ => none
  | instruction i => some i

theorem instruction?_row (item : Item) (key step : UInt32) :
    (item.row key step).instruction? = item.instruction? := by
  cases item with
  | statement text => rw [Row.instruction?, opcode?_row_statement]; rfl
  | instruction i => rw [Row.instruction?, opcode?_row_instruction]; rfl

/-- The rows of items in several parts fall into the rows of each part. -/
theorem exists_parts {α : Type} (f : α → List Item) (xs : List α) (key step : UInt32) :
    ∃ parts, numberFrom key step (xs.flatMap f) = parts.flatten ∧
      List.Forall₂ (fun x part => ∃ key step, part = numberFrom key step (f x)) xs parts := by
  induction xs generalizing key step with
  | nil => exact ⟨[], rfl, .nil⟩
  | cons x xs ih =>
    rw [List.flatMap_cons, numberFrom_append]
    obtain ⟨parts, hparts, hforall⟩ := ih (key + .ofNat (f x).length)
      (step + .ofNat ((f x).countP isInstruction))
    exact ⟨_ :: parts, by rw [hparts, List.flatten_cons], .cons ⟨key, step, rfl⟩ hforall⟩

end Item

/-! ## Blocks of a cylinder -/

/-- Items that are not counted do not occur. -/
theorem Item.opcode?_ne_of_count_eq_zero {kind : Option Opcode} {items : List Item}
    (h : count kind items = 0) {item : Item} (hitem : item ∈ items) : item.opcode? ≠ kind := by
  intro hkind
  exact List.count_eq_zero.mp h (hkind ▸ List.mem_map_of_mem hitem)

namespace Permission

variable (c : Cylinder) (outputs : List String) (p : Permission)

theorem isPermission_numberFrom (key step : UInt32) :
    Row.IsPermission c outputs (p.request.toNat, p.target.toNat)
      (Item.numberFrom key step (p.items c outputs)) := by
  refine ⟨_, _, rfl, Item.isComment_row_statement key step (isBlank_statement c p), ?_⟩
  rw [Item.map_numberFrom _ _ Item.instruction?_row, logic]
  simp only [List.map_append, List.map_cons, List.map_map]
  rfl

end Permission

namespace Cylinder

variable {p : Plant} {o : Options} {c : Cylinder}

/-- The rows of the interlocks set the outputs of the cylinder, wherever they stand. -/
theorem filterMap_coil?_numberFrom (h : c.isAddressable) (key step : UInt32) :
    (Item.numberFrom key step
      (c.sortedInterlocks.flatMap (Interlock.items (c.scope p o)))).filterMap Row.coil? =
        outputs (c.scope p o) := by
  rw [← filterMap_coil?_interlocks h]
  exact Item.filterMap_numberFrom key step fun item _ => item.coil?_row

theorem isBlock_numberFrom (h : c.isAddressable) (key step : UInt32) :
    c.IsBlock p o (Item.numberFrom key step (c.items p o)) where
  -- What a row does or says depends on its item only, so the numbers do not matter.
  content :=
    (Item.map_numberFrom key step (g := fun item => (item.row 0 0).content)
      (fun item _ _ => by cases item <;> rfl) _).trans
    (Item.map_numberFrom 1 0 (fun item _ _ => by cases item <;> rfl) _).symm
  permissions := by
    rw [items_eq h, Item.numberFrom_append, Item.numberFrom_append]
    generalize hfront : Item.numberFrom key step
      (c.sortedInterlocks.flatMap (Interlock.items (c.scope p o))) = front
    have hcoils : front.filterMap Row.coil? = outputs (c.scope p o) := by
      rw [← hfront, filterMap_coil?_numberFrom h]
    obtain ⟨rungs, hrungs, hforall⟩ := Item.exists_parts
      (Permission.items c (outputs (c.scope p o))) Permission.all
      (key + .ofNat (c.sortedInterlocks.flatMap (Interlock.items (c.scope p o))).length)
      (step + .ofNat ((c.sortedInterlocks.flatMap
        (Interlock.items (c.scope p o))).countP Item.isInstruction))
    rw [hrungs, Item.numberFrom, Item.numberFrom]
    refine ⟨front, rungs, _, rfl, Item.opcode?_row_instruction _ _ _, ?_, ?_⟩
    · rw [hcoils]
      refine List.forall₂_map_left_iff (f := fun permission : Permission =>
        (permission.request.toNat, permission.target.toNat)).mpr (hforall.imp ?_)
      rintro permission rung ⟨key, step, rfl⟩
      exact permission.isPermission_numberFrom c (outputs (c.scope p o)) key step
    · intro device
      rw [hcoils, outputs_eq h]
      exact mem_outputs_iff h

theorem exists_numberFrom_eq_append_nop (h : c.isAddressable) (key step : UInt32) :
    ∃ front last, Item.numberFrom key step (c.items p o) = front ++ [last] ∧
      last.opcode? = some .nop ∧ ∀ row ∈ front, row.opcode? ≠ some .nop := by
  have hnop : some Opcode.nop ∈ framing := by decide
  have hinterlocks : Item.count (some .nop)
      (c.sortedInterlocks.flatMap (Interlock.items (c.scope p o))) = 0 := by
    rw [count_interlocks hnop h]
    rfl
  have hpermissions : Item.count (some .nop)
      (Permission.all.flatMap (Permission.items c (outputs (c.scope p o)))) = 0 := by
    rw [count_permissions hnop]
    rfl
  rw [items_eq h, Item.numberFrom_append]
  refine ⟨_, _, rfl, Item.opcode?_row_instruction _ _ _, fun row hrow => ?_⟩
  obtain ⟨item, hitem, _, _, rfl⟩ := Item.exists_of_mem_numberFrom _ _ hrow
  rw [item.opcode?_row]
  refine Item.opcode?_ne_of_count_eq_zero ?_ hitem
  rw [Item.count_append, hinterlocks, hpermissions]

end Cylinder

/-- A listing is made of the items of the cylinders within range, which are numbered where they
stand. -/
theorem Plant.exists_parts (p : Plant) (o : Options) : ∃ parts,
    (p.generate o).rows = parts.flatten ∧
      List.Forall₂ (fun c part => c.isAddressable ∧
        ∃ key step, part = Item.numberFrom key step (c.items p o))
          (p.cylinders.filter Cylinder.isAddressable) parts := by
  obtain ⟨parts, hparts, hforall⟩ :=
    Item.exists_parts (Cylinder.items p o) (p.cylinders.filter Cylinder.isAddressable) 1 0
  refine ⟨parts, ?_, (List.forall₂_and_left _ _).mpr ⟨?_, hforall⟩⟩
  · rw [rows_generate, ← p.flatMap_items_filter o, ← hparts]
    rfl
  · intro c hc
    exact (List.mem_filter.mp hc).2

/-- **A listing falls into the blocks of its cylinders** when it is split behind each `NOP`, and
the permissions of each block negate exactly what the rest of the block sets. -/
theorem Plant.blocks_generate (p : Plant) (o : Options) :
    List.Forall₂ (Cylinder.IsBlock p o) (p.cylinders.filter Cylinder.isAddressable)
      (Row.blocks (p.generate o).rows) := by
  obtain ⟨parts, hrows, hparts⟩ := p.exists_parts o
  rw [hrows, Row.blocks, splitBy_flatten_of_closed]
  · refine hparts.imp ?_
    rintro c _ ⟨hc, key, step, rfl⟩
    exact Cylinder.isBlock_numberFrom hc key step
  · refine forall_mem_of_forall₂ ?_ hparts
    rintro c _ ⟨hc, key, step, rfl⟩
    obtain ⟨front, last, hsplit, hlast, hfront⟩ :=
      Cylinder.exists_numberFrom_eq_append_nop hc key step
    exact ⟨front, last, hsplit, decide_eq_true hlast,
      fun row hrow => decide_eq_false (hfront row hrow)⟩

end InterlockLadder
