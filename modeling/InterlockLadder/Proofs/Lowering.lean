import InterlockLadder.Proofs.BlankText
import InterlockLadder.Proofs.Meaning

/-! Lowering keeps the meaning of a cylinder: its rows, executed by the machine of a ladder, make
the assignments of the cylinder. The opening of an interlock pushes its precondition
(`Interlock.exists_opening`), the logic of a condition joins the truth of the condition with it
(`Condition.logic_agrees`), and every rung makes one assignment (`Implements`), whatever the numbers
of its rows are. -/

namespace InterlockLadder

open StackMachine (follow execute)

/-! ## Addresses -/

namespace Cylinder

variable {c : Cylinder}

theorem base_lt_of_isAddressable (h : c.isAddressable) : c.base.toNat + 18 < UInt32.size := by
  simp only [isAddressable, device?, Option.isSome_ite] at h
  exact h

/-- Within range, the number of a device does not wrap around. -/
theorem device?_eq_address (h : c.isAddressable) {offset : UInt32} (hle : offset.toNat ≤ 18) :
    c.device? offset = some (c.address offset.toNat) := by
  have hbase := base_lt_of_isAddressable h
  have hlt : c.base.toNat + offset.toNat < UInt32.size := by omega
  rw [device?, if_pos hlt, address, UInt32.toNat_add, Nat.mod_eq_of_lt hlt]

end Cylinder

theorem mapM_eq_some_map {α β : Type} {f : α → Option β} {g : α → β} {xs : List α}
    (h : ∀ x ∈ xs, f x = some (g x)) : xs.mapM f = some (xs.map g) := by
  induction xs with
  | nil => rfl
  | cons x xs ih =>
    rw [List.mapM_cons, h x List.mem_cons_self, ih fun y hy => h y (List.mem_cons_of_mem _ hy)]
    rfl

/-! ## Openings -/

theorem follow_anyOf (device : String) (devices : List String) (m : Memory) (stack : List Bool) :
    follow ladder (anyOf (device :: devices)) ⟨m, stack⟩ =
      some ⟨m, (device :: devices).any m :: stack⟩ := by
  rw [anyOf, StackMachine.follow_ld, StackMachine.follow_contacts rfl,
    Opcode.foldl_combine_of_isDisjunctive m devices _ rfl]
  rfl

theorem follow_signal (o : Options) (mode : RunMode) (m : Memory) (v : Bool) (stack : List Bool) :
    follow ladder [mode.signal o] ⟨m, v :: stack⟩ = some ⟨m, (v && mode.holds o m) :: stack⟩ := by
  cases mode <;> rfl

theorem follow_gate (gate : Option Gate) (m : Memory) (v : Bool) (stack : List Bool) :
    follow ladder (gate.bind Gate.instruction?).toList ⟨m, v :: stack⟩ =
      some ⟨m, (v && gate.all (Gate.holds m)) :: stack⟩ := by
  obtain _ | g := gate
  · simp
  · cases haddress : g.address? with
    | none => simp [Gate.instruction?, Gate.holds, haddress]
    | some address =>
      cases hpolarity : g.polarity <;>
        simp only [Option.bind_some, Gate.instruction?, haddress, hpolarity, Option.map_some,
          Option.toList_some, Option.all_some, Gate.holds] <;> rfl

theorem requestOffsets_ne_nil (mode : RunMode) (direction : Direction) :
    requestOffsets mode direction ≠ [] := by
  cases mode <;> cases direction <;> decide

theorem toNat_le_of_mem_requestOffsets {mode : RunMode} {direction : Direction} {offset : UInt32}
    (h : offset ∈ requestOffsets mode direction) : offset.toNat ≤ 18 := by
  have hall : (requestOffsets mode direction).all fun offset => offset.toNat ≤ 18 := by
    cases mode <;> cases direction <;> rfl
  exact of_decide_eq_true (List.all_eq_true.mp hall offset h)

namespace Interlock

theorem any_requestOffsets (c : Cylinder) (mode : RunMode) (i : Interlock) (m : Memory) :
    ((requestOffsets mode i.direction).map fun offset => c.address offset.toNat).any m =
      i.isRequested c mode m := by
  cases mode <;> cases hd : i.direction <;>
    simp [requestOffsets, RunMode.requests, isRequested, hd, Direction.includesForward,
      Direction.includesBackward, Offset.forwardManual, Offset.backwardManual,
      Offset.forwardAuto, Offset.backwardAuto, Bool.or_assoc]

/-- The opening of an interlock with a run mode. -/
theorem opening_eq_ok {o : Options} {c : Cylinder} {i : Interlock} {mode : RunMode}
    (hc : c.isAddressable) (hmode : i.runMode = some mode) :
    i.opening o c = .ok
      (anyOf ((requestOffsets mode i.direction).map fun offset => c.address offset.toNat) ++
        [mode.signal o] ++ (i.gate.bind Gate.instruction?).toList) := by
  have hdevices : (requestOffsets mode i.direction).mapM c.device? =
      some ((requestOffsets mode i.direction).map fun offset => c.address offset.toNat) :=
    mapM_eq_some_map fun offset hoffset =>
      Cylinder.device?_eq_address hc (toNat_le_of_mem_requestOffsets hoffset)
  simp only [opening, hmode, runModeOpening?, hdevices, Option.map_some]

/-- An interlock with a run mode has an opening, which pushes the precondition. -/
theorem exists_opening {o : Options} {c : Cylinder} {i : Interlock} {mode : RunMode}
    (hc : c.isAddressable) (hmode : i.runMode = some mode) :
    ∃ opening, i.opening o c = .ok opening ∧ ∀ m stack,
      follow ladder opening ⟨m, stack⟩ = some ⟨m, i.precondition o c mode m :: stack⟩ := by
  refine ⟨_, opening_eq_ok hc hmode, fun m stack => ?_⟩
  obtain ⟨first, others, hrequests⟩ := List.exists_cons_of_ne_nil
    (requestOffsets_ne_nil mode i.direction)
  have hany := any_requestOffsets c mode i m
  rw [hrequests, List.map_cons] at hany
  rw [StackMachine.follow_append, StackMachine.follow_append, hrequests, List.map_cons,
    follow_anyOf, hany]
  simp only [Option.bind_some, follow_signal, follow_gate]
  rfl

theorem opening_eq_error {o : Options} {c : Cylinder} {i : Interlock} (h : i.runMode = none) :
    ∃ d, i.opening o c = .error d :=
  ⟨_, by rw [opening, h]⟩

/-- Only an interlock with a run mode has rungs. -/
theorem rungs_eq {s : Scope} (h : s.cylinder.isAddressable) (i : Interlock) :
    i.rungs s = if i.runMode.isSome then
      i.sortedConditions.filterMap fun condition => (condition.rung s).toOption else [] := by
  rw [rungs]
  cases hmode : i.runMode with
  | none =>
    obtain ⟨d, hopening⟩ := opening_eq_error (o := s.options) (c := s.cylinder) hmode
    rw [hopening]
    rfl
  | some mode =>
    obtain ⟨opening, hopening, -⟩ := exists_opening (o := s.options) h hmode
    rw [hopening]
    rfl

end Interlock

/-! ## Success and failure -/

theorem bind_eq_ok_iff {ε α β : Type} {x : Except ε α} {f : α → Except ε β} {b : β} :
    (x >>= f) = .ok b ↔ ∃ a, x = .ok a ∧ f a = .ok b := by
  cases x <;> simp [bind, Except.bind]

theorem map_eq_ok_iff {ε α β : Type} {x : Except ε α} {f : α → β} {b : β} :
    x.map f = .ok b ↔ ∃ a, x = .ok a ∧ f a = b := by
  cases x <;> simp [Except.map]

theorem toOption_eq_some_iff {ε α : Type} {x : Except ε α} {a : α} :
    x.toOption = some a ↔ x = .ok a := by
  cases x <;> simp [Except.toOption]

/-- Lowering succeeds exactly where there is a meaning, and what it gives is related to it. -/
inductive Agree {α β : Type} (related : α → β → Prop) : Except Defect α → Option β → Prop
  | lowered {a b} (h : related a b) : Agree related (.ok a) (some b)
  | failed {defect} : Agree related (.error defect) none

namespace Agree

variable {α β : Type} {related : α → β → Prop} {x : Except Defect α} {y : Option β}

theorem exists_of_ok {a : α} (h : Agree related x y) (hx : x = .ok a) :
    ∃ b, y = some b ∧ related a b := by
  cases h with
  | lowered h =>
    cases hx
    exact ⟨_, rfl, h⟩
  | failed => cases hx

theorem exists_of_some {b : β} (h : Agree related x y) (hy : y = some b) :
    ∃ a, x = .ok a ∧ related a b := by
  cases h with
  | lowered h =>
    cases hy
    exact ⟨_, rfl, h⟩
  | failed => cases hy

theorem eq_none_of_error {defect : Defect} (h : Agree related x y) (hx : x = .error defect) :
    y = none := by
  cases h with
  | lowered => cases hx
  | failed => rfl

end Agree

/-! ## Conditions -/

/-- Behind a value on the stack, the logic joins it with the truth. -/
def Continues (join : Bool → Bool → Bool) (logic : List Instruction) (truth : Memory → Bool) :
    Prop :=
  ∀ m v stack, follow ladder logic ⟨m, v :: stack⟩ = some ⟨m, join v (truth m) :: stack⟩

namespace Condition

variable {c : Condition}

theorem pointAddress_eq (c : Condition) (position : Nat) :
    pointAddress c.sortedIos position =
      match c.point? position with
      | some address => .ok address
      | none => .error (.missingPoint position) := rfl

theorem toOption_pointAddresses (position : Nat) (ios : List IoPoint) :
    (pointAddresses position ios).toOption = ios.mapM fun io => Text.nonBlank? io.address := by
  induction ios generalizing position with
  | nil => rfl
  | cons io ios ih =>
    rw [pointAddresses, List.mapM_cons, ← ih (position + 1)]
    cases Text.nonBlank? io.address with
    | none => rfl
    | some address => cases pointAddresses (position + 1) ios <;> rfl

theorem length_of_pointAddresses {position : Nat} {ios : List IoPoint} {addresses : List String}
    (h : pointAddresses position ios = .ok addresses) : addresses.length = ios.length := by
  induction ios generalizing position addresses with
  | nil =>
    cases h
    rfl
  | cons io ios ih =>
    rw [pointAddresses] at h
    split at h
    · cases h
    · obtain ⟨others, hothers, rfl⟩ := map_eq_ok_iff.mp h
      rw [List.length_cons, List.length_cons, ih hothers]

theorem singleContact_agrees (c : Condition) {op : Opcode} (hfamily : op.family = .logic)
    (hop : op.isDisjunctive = false) :
    Agree (Continues and) (singleContact op c.sortedIos)
      ((c.point? 0).map fun first m => op.contact first m) := by
  rw [singleContact, pointAddress_eq]
  cases c.point? 0 with
  | none => exact .failed
  | some first =>
    refine .lowered fun m v stack => ?_
    rw [show [(⟨op, first⟩ : Instruction)] = [first].map (⟨op, ·⟩) from rfl,
      StackMachine.follow_contacts hfamily, Opcode.foldl_combine_of_not_isDisjunctive m _ _ hop]
    simp

theorem dualNegatedPair_agrees (c : Condition) :
    Agree (Continues and) (dualNegatedPair c.sortedIos) (do
      let first ← c.point? 0
      let second ← c.point? 1
      return fun m => m first || !m second) := by
  rw [dualNegatedPair, pointAddress_eq, pointAddress_eq]
  cases c.point? 0 with
  | none => exact .failed
  | some first =>
    cases c.point? 1 with
    | none => exact .failed
    | some second => exact .lowered fun m v stack => by rfl

theorem orDual_agrees (c : Condition) :
    Agree (Continues and) (orDual c.sortedIos) (do
      let first ← c.point? 0
      let second ← c.point? 1
      return fun m => m first && m second || !m first && !m second) := by
  rw [orDual, pointAddress_eq, pointAddress_eq]
  cases c.point? 0 with
  | none => exact .failed
  | some first =>
    cases c.point? 1 with
    | none => exact .failed
    | some second => exact .lowered fun m v stack => by rfl

theorem sensor_agrees (s : Scope) (v : Convention) :
    Agree (Continues and) (sensor s v) ((v.resolve? s).map fun address m => !m address) := by
  rw [sensor]
  cases v.resolve? s with
  | none => exact .failed
  | some address => exact .lowered fun m v stack => by rfl

theorem interlockRef_agrees (c : Condition) :
    Agree (Continues and) c.interlockRef
      (c.referencedDevice?.map fun device m => c.polarity.reads (m device)) := by
  rw [interlockRef]
  cases c.referencedDevice? with
  | none => exact .failed
  | some device => cases c.polarity <;> exact .lowered fun m v stack => by rfl

/-- The alternatives of a condition are joined by disjunction, a single one by conjunction. -/
theorem orMany_agrees (h : c.kind = .orMany) :
    Agree (Continues c.joined) (orMany c.sortedIos)
      (c.points?.map fun (first, others) m => m first || others.any (!m ·)) := by
  rw [orMany, points?, ← toOption_pointAddresses 0]
  cases hios : pointAddresses 0 c.sortedIos with
  | error defect => exact .failed
  | ok addresses =>
    have hlength : addresses.length = c.ios.length := by
      rw [length_of_pointAddresses hios, sortedIos, List.length_mergeSort]
    rcases addresses with _ | ⟨first, _ | ⟨second, others⟩⟩
    · exact .failed
    · have hjoined : c.joined = and := by
        funext v truth
        simp [joined, isAlternative, ← hlength]
      rw [hjoined]
      exact .lowered fun m v stack => by simp; rfl
    · have hjoined : c.joined = or := by
        funext v truth
        simp [joined, isAlternative, h, ← hlength]
      rw [hjoined]
      refine .lowered fun m v stack => ?_
      rw [List.cons_append, StackMachine.follow_ld, StackMachine.follow_append,
        StackMachine.follow_contacts rfl, Opcode.foldl_combine_of_isDisjunctive m _ _ rfl]
      rfl

theorem joined_eq_and (h : c.kind ≠ .orMany) : c.joined = and := by
  funext v truth
  simp [joined, isAlternative, h]

/-- The logic of a condition exists exactly where its truth does, and joins it with the value of
the opening. -/
theorem logic_agrees (s : Scope) (c : Condition) :
    Agree (Continues c.joined) (c.logic s) (c.truth? s) := by
  by_cases hmany : c.kind = .orMany
  · simpa only [logic, truth?, hmany] using orMany_agrees hmany
  · rw [joined_eq_and hmany, logic, truth?]
    cases hkind : c.kind with
    | on => exact singleContact_agrees c rfl rfl
    | onInverted | limit | interlockIo => exact singleContact_agrees c rfl rfl
    | dualNegatedPair => exact dualNegatedPair_agrees c
    | orDual => exact orDual_agrees c
    | orMany => exact absurd hkind hmany
    | alarmSensor => exact sensor_agrees s .alarm
    | memorySensor => exact sensor_agrees s .memoryBit
    | interlockRef => exact interlockRef_agrees c
    | unrecognized tag => exact .failed

end Condition

/-! ## Rungs -/

/-- Executing the items makes the assignments, whatever the numbers of their rows are, and no more
than one value is left on the stack. -/
def Implements (items : List Item) (as : List Assignment) : Prop :=
  ∀ key step m, ∃ stack,
    execute ladder (Item.numberFrom key step items) m = some ⟨m.memory.assignAll as, stack⟩ ∧
      (m.stack.length ≤ 1 → stack.length ≤ 1)

theorem Implements.nil : Implements [] [] :=
  fun _ _ m => ⟨m.stack, rfl, id⟩

theorem Implements.append {items items' : List Item} {as as' : List Assignment}
    (h : Implements items as) (h' : Implements items' as') :
    Implements (items ++ items') (as ++ as') := by
  intro key step m
  obtain ⟨stack, hfirst, hlow⟩ := h key step m
  obtain ⟨stack', hsecond, hlow'⟩ := h' (key + .ofNat items.length)
    (step + .ofNat (items.countP Item.isInstruction)) ⟨m.memory.assignAll as, stack⟩
  refine ⟨stack', ?_, fun hm => hlow' (hlow hm)⟩
  rw [Item.numberFrom_append, StackMachine.execute_append, hfirst, Option.bind_some, hsecond,
    Memory.assignAll_append]

/-- A statement that says something drops what is on the stack. -/
theorem Implements.statement {text : String} {items : List Item} {as : List Assignment}
    (htext : Text.isBlank text = false) (h : Implements items as) :
    Implements (.statement text :: items) as := by
  intro key step m
  rw [StackMachine.execute_statement ladder htext]
  obtain ⟨stack, hexecute, hlow⟩ := h (key + 1) step m.clear
  exact ⟨stack, hexecute, fun _ => hlow (Nat.zero_le 1)⟩

/-- A rung copies to its device what the logic makes of the value of the opening. -/
theorem Rung.execute_items {o : Options} {opening : List Instruction} {r : Rung}
    {precondition truth : Memory → Bool} {join : Bool → Bool → Bool}
    (hstatement : Text.isBlank r.statement = false)
    (hopening : ∀ m stack, follow ladder opening ⟨m, stack⟩ = some ⟨m, precondition m :: stack⟩)
    (hlogic : Continues join r.logic truth) (key step : UInt32) (m : StackMachine Memory Bool) :
    execute ladder (Item.numberFrom key step (r.items o opening)) m =
      some ⟨m.memory.set r.device (join (precondition m.memory) (truth m.memory)),
        [join (precondition m.memory) (truth m.memory)]⟩ := by
  rw [Rung.items, StackMachine.execute_statement ladder hstatement,
    StackMachine.execute_instructions, StackMachine.follow_append, StackMachine.follow_append,
    show m.clear = ⟨m.memory, []⟩ from rfl, hopening, Option.bind_some, hlogic, Option.bind_some]
  rfl

namespace Condition

variable {s : Scope} {c : Condition}

/-- A rung has a statement, and the logic and device of its condition. -/
theorem rung_eq_ok {r : Rung} (h : c.rung s = .ok r) :
    Text.isBlank r.statement = false ∧ c.logic s = .ok r.logic ∧
      c.assignedDevice? = some r.device ∧ c.interlockNumber = some r.number := by
  rw [rung] at h
  split at h
  · cases h
  · next device hdevice =>
    split at h
    · cases h
    · next number hnumber =>
      obtain ⟨logic, hlogic, rfl⟩ := map_eq_ok_iff.mp h
      exact ⟨c.isBlank_getD_comment?, hlogic, hdevice, hnumber⟩

/-- A condition has a rung exactly where it assigns something, and the rung assigns it. -/
theorem rung_agrees (s : Scope) (precondition : Memory → Bool) (c : Condition) :
    Agree (fun r a => r.device = a.device ∧ ∀ o opening,
        (∀ m stack, follow ladder opening ⟨m, stack⟩ = some ⟨m, precondition m :: stack⟩) →
          Implements (r.items o opening) [a])
      (c.rung s) (c.assignment? s precondition) := by
  rw [rung, assignment?]
  cases c.assignedDevice? with
  | none => exact .failed
  | some device =>
    cases c.interlockNumber with
    | none => exact .failed
    | some number =>
      have hlogic := c.logic_agrees s
      generalize c.logic s = logic, c.truth? s = truth at hlogic ⊢
      cases hlogic with
      | failed => exact .failed
      | lowered hlogic =>
        refine .lowered ⟨rfl, fun o opening hopening key step m => ?_⟩
        have hexecute := Rung.execute_items (o := o) (r := ⟨_, _, device, number⟩)
          c.isBlank_getD_comment? hopening hlogic key step m
        exact ⟨_, hexecute, fun _ => Nat.le_refl 1⟩

end Condition

end InterlockLadder
