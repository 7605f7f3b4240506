import InterlockLadder.Ladder.Item
import InterlockLadder.Proofs.StackMachine

/-! Rows of items: what a machine and a validator read off them, whatever their numbers are. -/

namespace InterlockLadder

theorem Opcode.parse?_mnemonic (op : Opcode) : parse? op.mnemonic = some op := by
  rw [parse?_eq_some_iff]
  cases op <;> decide +kernel

namespace Item

variable (key step : UInt32)

@[simp] theorem opcode?_row_instruction (i : Instruction) :
    ((instruction i).row key step).opcode? = some i.opcode :=
  i.opcode.parse?_mnemonic

@[simp] theorem operand_row_instruction (i : Instruction) :
    ((instruction i).row key step).operand = i.operand := rfl

/-- A statement has a comment for its row, if it says anything. -/
theorem isComment_row_statement {text : String} (h : Text.isBlank text = false) :
    ((statement text).row key step).isComment := by
  have hopcode : Text.isBlank "" := by decide
  simp [row, Row.isComment, Row.hasBlankOpcode, Row.hasStatement, hopcode, h]

theorem opcode?_row_statement (text : String) : ((statement text).row key step).opcode? = none := by
  change Opcode.parse? "" = none
  decide +kernel

/-- The key and the step behind the items, the first of which takes the given ones. -/
def countersFrom (key step : UInt32) : List Item → UInt32 × UInt32
  | [] => (key, step)
  | item :: items => countersFrom (key + 1) (step + item.steps) items

theorem countersFrom_eq (items : List Item) : countersFrom key step items =
    (key + .ofNat items.length, step + .ofNat (items.countP isInstruction)) := by
  induction items generalizing key step with
  | nil => simp [countersFrom]
  | cons item items ih =>
    have hkey : key + .ofNat (item :: items).length = key + 1 + .ofNat items.length := by
      rw [List.length_cons, UInt32.ofNat_add, UInt32.add_assoc, UInt32.add_comm (.ofNat _)]
      rfl
    have hstep : step + .ofNat ((item :: items).countP isInstruction) =
        step + item.steps + .ofNat (items.countP isInstruction) := by
      cases h : item.isInstruction
      · simp [steps, h]
      · simp [steps, h, UInt32.ofNat_add, UInt32.add_assoc, UInt32.add_comm]
    rw [countersFrom, ih, hkey, hstep]

theorem numberFrom_append_countersFrom (items items' : List Item) :
    numberFrom key step (items ++ items') = numberFrom key step items ++
      numberFrom (countersFrom key step items).1 (countersFrom key step items).2 items' := by
  induction items generalizing key step with
  | nil => rfl
  | cons item items ih => exact congrArg (item.row key step :: ·) (ih _ _)

/-- The numbers of the items behind others. -/
theorem numberFrom_append (items items' : List Item) :
    numberFrom key step (items ++ items') =
      numberFrom key step items ++
        numberFrom (key + .ofNat items.length) (step + .ofNat (items.countP isInstruction))
          items' := by
  rw [numberFrom_append_countersFrom, countersFrom_eq]

/-- Items within others have their rows within those of the others. -/
theorem exists_numberFrom_isInfix {items items' : List Item} (h : items <:+: items') :
    ∃ key' step', numberFrom key' step' items <:+: numberFrom key step items' := by
  obtain ⟨front, back, rfl⟩ := h
  rw [numberFrom_append, numberFrom_append]
  exact ⟨_, _, _, _, rfl⟩

/-- What is read off rows may be read off their items, if the numbers do not matter. -/
theorem map_numberFrom {β : Type} {f : Row → β} {g : Item → β}
    (h : ∀ (item : Item) key step, f (item.row key step) = g item) (items : List Item) :
    (numberFrom key step items).map f = items.map g := by
  induction items generalizing key step with
  | nil => rfl
  | cons item items ih => rw [numberFrom, List.map_cons, List.map_cons, h, ih]

/-- The same for what only some rows have. -/
theorem filterMap_numberFrom {β : Type} {f : Row → Option β} {g : Item → Option β}
    {items : List Item} (h : ∀ item ∈ items, ∀ key step, f (item.row key step) = g item) :
    (numberFrom key step items).filterMap f = items.filterMap g := by
  induction items generalizing key step with
  | nil => rfl
  | cons item items ih =>
    obtain ⟨hitem, hitems⟩ := List.forall_mem_cons.mp h
    rw [numberFrom, List.filterMap_cons, List.filterMap_cons, hitem, ih _ _ hitems]

/-- Every row is the row of one of the items. -/
theorem exists_of_mem_numberFrom {items : List Item} {row : Row}
    (h : row ∈ numberFrom key step items) :
    ∃ item ∈ items, ∃ key step, row = item.row key step := by
  induction items generalizing key step with
  | nil => cases h
  | cons item items ih =>
    obtain rfl | h := List.mem_cons.mp h
    · exact ⟨item, List.mem_cons_self, key, step, rfl⟩
    · obtain ⟨other, hother, hrow⟩ := ih _ _ h
      exact ⟨other, List.mem_cons_of_mem _ hother, hrow⟩

end Item

namespace StackMachine

variable {μ α : Type} (I : Interpretation μ α)

/-- Executes instructions that have no rows yet. -/
def follow (instructions : List Instruction) (m : StackMachine μ α) :
    Option (StackMachine μ α) :=
  instructions.foldlM (fun m i => m.act I i.opcode i.operand) m

@[simp] theorem follow_nil (m : StackMachine μ α) : m.follow I [] = some m := rfl

@[simp] theorem follow_cons (i : Instruction) (is : List Instruction) (m : StackMachine μ α) :
    m.follow I (i :: is) = (m.act I i.opcode i.operand).bind (follow I is) := by
  simp only [follow, List.foldlM_cons]
  rfl

@[simp] theorem follow_append (is is' : List Instruction) (m : StackMachine μ α) :
    m.follow I (is ++ is') = (m.follow I is).bind (follow I is') := by
  simp only [follow, List.foldlM_append]
  rfl

theorem execute_instructions (key step : UInt32) (is : List Instruction) (m : StackMachine μ α) :
    m.execute I (Item.numberFrom key step (is.map .instruction)) = m.follow I is := by
  induction is generalizing key step m with
  | nil => rfl
  | cons i is ih =>
    rw [List.map_cons, Item.numberFrom, execute_cons, follow_cons,
      step_of_opcode? I (Item.opcode?_row_instruction key step i)]
    exact Option.bind_congr fun m' _ => ih _ _ m'

/-- A statement drops the operand values of the rung before. -/
theorem execute_statement {text : String} (h : Text.isBlank text = false) (key step : UInt32)
    (items : List Item) (m : StackMachine μ α) :
    m.execute I (Item.numberFrom key step (.statement text :: items)) =
      m.clear.execute I (Item.numberFrom (key + 1) step items) := by
  rw [Item.numberFrom, execute_cons,
    step_of_isComment I (Item.isComment_row_statement key step h), Option.bind_some]
  simp [Item.steps, Item.isInstruction]

end StackMachine

end InterlockLadder
