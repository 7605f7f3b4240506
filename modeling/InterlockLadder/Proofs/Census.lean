import InterlockLadder.Proofs.Blocks

/-! How many rows of a kind a listing has. The kind of a row is its instruction, or that it has
none. Statements and the instructions `OUT`, `MOV` and `NOP` never belong to the logic of a rung
(`framing`), so their number follows from how many rungs, interlocks and blocks there are
(`Plant.count_items`). -/

namespace InterlockLadder

/-- The instruction of an item; a statement has none. -/
def Item.opcode? : Item → Option Opcode
  | .statement _ => none
  | .instruction i => some i.opcode

theorem Item.opcode?_row (item : Item) (key step : UInt32) :
    (item.row key step).opcode? = item.opcode? := by
  cases item with
  | statement text => exact opcode?_row_statement key step text
  | instruction i => exact opcode?_row_instruction key step i

/-- The kinds of items that are no part of the logic of a rung. -/
def framing : List (Option Opcode) :=
  [none, some .out, some .mov, some .nop]

/-- The number of items of a kind. -/
def Item.count (kind : Option Opcode) (items : List Item) : Nat :=
  (items.map Item.opcode?).count kind

section
variable {kind : Option Opcode}

@[simp] theorem Item.count_nil : Item.count kind [] = 0 := rfl

theorem Item.count_cons (item : Item) (items : List Item) :
    Item.count kind (item :: items) = Item.count kind [item] + Item.count kind items := by
  rw [count, List.map_cons, ← List.singleton_append, List.count_append]
  rfl

theorem Item.count_append (items items' : List Item) :
    Item.count kind (items ++ items') = Item.count kind items + Item.count kind items' := by
  rw [count, List.map_append, List.count_append]
  rfl

theorem Item.count_eq_of_perm {items items' : List Item} (h : items.Perm items') :
    Item.count kind items = Item.count kind items' :=
  (h.map Item.opcode?).count_eq kind

/-- Parts that count the same add up to a product. -/
theorem Item.count_flatMap {α : Type} {f : α → List Item} {xs : List α} {n : Nat}
    (h : ∀ x ∈ xs, Item.count kind (f x) = n) : Item.count kind (xs.flatMap f) = xs.length * n := by
  induction xs with
  | nil => exact (Nat.zero_mul n).symm
  | cons x xs ih =>
    obtain ⟨hx, hxs⟩ := List.forall_mem_cons.mp h
    rw [List.flatMap_cons, count_append, hx, ih hxs, List.length_cons, Nat.succ_mul, Nat.add_comm]

end

/-- A test that finds the kind of a row finds as many rows as there are items of the kind. -/
theorem Item.countP_numberFrom_eq_count {q : Row → Bool} (kind : Option Opcode)
    (h : ∀ (item : Item) key step, q (item.row key step) ↔ item.opcode? = kind) (key step : UInt32)
    (items : List Item) : (numberFrom key step items).countP q = count kind items := by
  have hmap := map_numberFrom key step (f := q) (g := fun item => item.opcode? == kind)
    (fun item key step => by rw [Bool.eq_iff_iff, h, beq_iff_eq]) items
  have hcount := congrArg (List.countP id) hmap
  rw [List.countP_map, List.countP_map] at hcount
  rw [count, List.count, List.countP_map]
  exact hcount

/-! ## Rungs -/

theorem Instruction.IsLogic.not_mem_framing {o : Options} {i : Instruction} (h : i.IsLogic o) :
    some i.opcode ∉ framing := by
  have hops : ∀ op : Opcode, some op ∈ framing → ¬op.family.isContact ∧ op.family ≠ .block := by
    intro op hop
    simp only [framing, List.mem_cons, reduceCtorEq, Option.some.injEq, List.not_mem_nil,
      or_false, false_or] at hop
    obtain rfl | rfl | rfl := hop <;> decide
  intro hmem
  cases h with
  | signal mode => cases mode <;> exact absurd rfl (hops _ hmem).1
  | contact hop => exact (hops _ hmem).1 hop
  | block hop => exact (hops _ hmem).2 hop

section
variable {o : Options} {kind : Option Opcode} (hkind : kind ∈ framing)
include hkind

theorem count_of_isLogic {is : List Instruction} (h : ∀ i ∈ is, i.IsLogic o) :
    Item.count kind (is.map .instruction) = 0 := by
  refine List.count_eq_zero.mpr fun hmem => ?_
  rw [List.map_map] at hmem
  obtain ⟨i, hi, rfl⟩ := List.mem_map.mp hmem
  exact (h i hi).not_mem_framing hkind

/-- A rung has one statement, one output and one move. -/
theorem Rung.count_items {opening : List Instruction} {r : Rung}
    (hopening : ∀ i ∈ opening, i.IsLogic o) (hlogic : ∀ i ∈ r.logic, i.IsLogic o) :
    Item.count kind (r.items o opening) = [none, some .out, some .mov].count kind := by
  rw [items, List.map_append, List.map_append, Item.count_cons, Item.count_append,
    Item.count_append, count_of_isLogic hkind hopening, count_of_isLogic hkind hlogic,
    Nat.zero_add, ← List.singleton_append (x := none), List.count_append]
  rfl

/-- An interlock has one statement besides its rungs. -/
theorem Interlock.count_items {s : Scope} (hs : s.cylinder.isAddressable) (i : Interlock) :
    Item.count kind (i.items s) =
      [none].count kind + (i.rungs s).length * [none, some .out, some .mov].count kind := by
  rw [items, Item.count_cons]
  refine congrArg _ ?_
  cases hopening : i.opening s.options s.cylinder with
  | error d => simp [rungs, hopening]
  | ok opening =>
    have hrungs : ∀ r ∈ i.rungs s, Item.count kind (r.items s.options opening) =
        [none, some .out, some .mov].count kind := by
      intro r hr
      obtain ⟨d, -, hrung⟩ := exists_of_mem_rungs hr
      obtain ⟨-, hlogic, -, -⟩ := Condition.rung_eq_ok hrung
      exact Rung.count_items hkind (isLogic_of_opening hs hopening)
        (Condition.isLogic_of_logic hlogic)
    change Item.count kind ((i.rungs s).flatMap (Rung.items s.options opening)) = _
    rw [Item.count_flatMap hrungs]

/-- A permission has one statement and one output. -/
theorem Permission.count_items (c : Cylinder) {outputs : List String}
    (houtputs : ∀ device ∈ outputs, Text.isBlank device = false) (p : Permission) :
    Item.count kind (p.items c outputs) = [none, some .out].count kind := by
  have hlogic : ∀ i ∈ (⟨.ld, c.address p.request.toNat⟩ :: outputs.map (⟨.ani, ·⟩) :
      List Instruction), i.IsLogic Options.default :=
    List.forall_mem_cons.mpr ⟨.contact rfl (c.isBlank_address _),
      Instruction.isLogic_of_mem_map rfl houtputs⟩
  rw [items, logic, List.map_append, Item.count_cons, Item.count_append,
    count_of_isLogic hkind hlogic, Nat.zero_add, ← List.singleton_append (x := none),
    List.count_append]
  rfl

end

/-! ## Lowered conditions -/

/-- The conditions that have a rung. -/
def Interlock.lowered (s : Scope) (i : Interlock) : List Condition :=
  if i.runMode.isSome then i.conditions.filter fun d => (d.rung s).isOk else []

def Cylinder.lowered (p : Plant) (o : Options) (c : Cylinder) : List Condition :=
  c.interlocks.flatMap (Interlock.lowered (c.scope p o))

theorem isSome_toOption {ε α : Type} (x : Except ε α) : x.toOption.isSome = x.isOk := by
  cases x <;> rfl

theorem Interlock.length_rungs {s : Scope} (hs : s.cylinder.isAddressable) (i : Interlock) :
    (i.rungs s).length = (i.lowered s).length := by
  rw [rungs_eq hs, lowered]
  split
  · have hperm : i.sortedConditions.Perm i.conditions := List.mergeSort_perm i.conditions _
    simp only [List.length_filterMap_eq_countP, isSome_toOption, ← List.countP_eq_length_filter]
    exact hperm.countP_eq _
  · rfl

/-! ## Cylinders and plants -/

namespace Cylinder

variable {p : Plant} {o : Options} {c : Cylinder} {kind : Option Opcode}

theorem isBlank_of_mem_outputs {s : Scope} :
    ∀ device ∈ outputs s, Text.isBlank device = false := by
  intro device hdevice
  obtain ⟨r, hr, rfl⟩ := List.mem_map.mp hdevice
  obtain ⟨i, -, hr⟩ := List.mem_flatMap.mp hr
  exact i.isBlank_device_of_mem_rungs hr

/-- The interlocks of a cylinder have one statement each, besides their rungs. -/
theorem count_interlocks (hkind : kind ∈ framing) (h : c.isAddressable) :
    Item.count kind (c.sortedInterlocks.flatMap (Interlock.items (c.scope p o))) =
      c.interlocks.length * [none].count kind +
        (c.lowered p o).length * [none, some .out, some .mov].count kind := by
  have hperm : c.sortedInterlocks.Perm c.interlocks := List.mergeSort_perm c.interlocks _
  rw [Item.count_eq_of_perm (hperm.flatMap_right _), lowered]
  induction c.interlocks with
  | nil => simp
  | cons i is ih =>
    have hi := i.count_items (s := c.scope p o) hkind h
    rw [Interlock.length_rungs (s := c.scope p o) h] at hi
    rw [List.flatMap_cons, Item.count_append, ih, hi, List.flatMap_cons, List.length_append,
      List.length_cons, Nat.add_mul, Nat.add_mul, Nat.one_mul]
    omega

theorem count_permissions (hkind : kind ∈ framing) :
    Item.count kind (Permission.all.flatMap (Permission.items c (outputs (c.scope p o)))) =
      4 * [none, some .out].count kind := by
  rw [Item.count_flatMap fun permission _ =>
    permission.count_items hkind c isBlank_of_mem_outputs]
  rfl

/-- A block has its interlocks, four permissions and a closing `NOP`. -/
theorem count_items (hkind : kind ∈ framing) (h : c.isAddressable) :
    Item.count kind (c.items p o) = c.interlocks.length * [none].count kind +
      (c.lowered p o).length * [none, some .out, some .mov].count kind +
        4 * [none, some .out].count kind + [some .nop].count kind := by
  rw [items_eq h, Item.count_append, Item.count_append, count_interlocks hkind h,
    count_permissions hkind]
  rfl

end Cylinder

namespace Plant

variable (p : Plant) (o : Options)

/-- The cylinders that have a block. -/
def addressable : List Cylinder :=
  p.cylinders.filter Cylinder.isAddressable

def lowered : List Condition :=
  p.addressable.flatMap (Cylinder.lowered p o)

/-- The interlocks in the cylinders that have a block. -/
def interlocks : List Interlock :=
  p.addressable.flatMap Cylinder.interlocks

/-- Every interlock has a statement, every lowered condition one rung, and every block its four
permissions and one `NOP`. -/
theorem count_items {kind : Option Opcode} (hkind : kind ∈ framing) :
    Item.count kind (p.cylinders.flatMap (Cylinder.items p o)) =
      p.interlocks.length * [none].count kind +
        (p.lowered o).length * [none, some .out, some .mov].count kind +
          p.addressable.length * (4 * [none, some .out].count kind + [some .nop].count kind) := by
  have haddressable : ∀ c ∈ p.addressable, c.isAddressable :=
    fun c hc => (List.mem_filter.mp hc).2
  rw [← p.flatMap_items_filter o, ← addressable, interlocks, lowered]
  generalize p.addressable = cs at haddressable
  induction cs with
  | nil => simp
  | cons c cs ih =>
    obtain ⟨hc, hcs⟩ := List.forall_mem_cons.mp haddressable
    have hcount := c.count_items (p := p) (o := o) hkind hc
    simp only [List.flatMap_cons, Item.count_append, List.length_append, List.length_cons,
      Nat.add_mul, Nat.one_mul, ih hcs, hcount]
    omega

/-- Rows that have as many statements, outputs, moves and ends of blocks as the records of the plant
call for. -/
structure Tallies (rows : List Row) : Prop where
  statements : rows.countP (·.statement.isSome) =
    p.interlocks.length + (p.lowered o).length + 4 * p.addressable.length
  outputs : rows.countP (·.opcode? = some .out) =
    (p.lowered o).length + 4 * p.addressable.length
  moves : rows.countP (·.opcode? = some .mov) = (p.lowered o).length
  ends : rows.countP (·.opcode? = some .nop) = p.addressable.length

theorem tallies_generate : p.Tallies o (p.generate o).rows := by
  have hopcodes : ∀ op : Opcode, some op ∈ framing → (p.generate o).rows.countP
      (·.opcode? = some op) = (p.lowered o).length * [some .out, some .mov].count (some op) +
        p.addressable.length * (4 * [some Opcode.out].count (some op) +
          [some .nop].count (some op)) := by
    intro op hop
    rw [rows_generate, Item.number, Item.countP_numberFrom_eq_count (some op)
      (fun item key step => by rw [item.opcode?_row, decide_eq_true_iff]), p.count_items o hop]
    simp
  refine ⟨?_, (hopcodes .out (by decide)).trans ?_, (hopcodes .mov (by decide)).trans ?_,
    (hopcodes .nop (by decide)).trans ?_⟩
  · rw [rows_generate, Item.number, Item.countP_numberFrom_eq_count none
      (fun item key step => by cases item <;> simp [Item.row, Item.opcode?]),
      p.count_items o (by decide)]
    simp
    omega
  · simp
    omega
  · simp
  · simp

end Plant

end InterlockLadder
