import InterlockLadder.Proofs.Simulation

/-! What a precondition holds back. While it does not hold, the rung of a condition writes off,
unless the condition is an alternative to its precondition (`Condition.isAlternative`): such a one
is joined by disjunction and gets through alone. -/

namespace InterlockLadder

open StackMachine (execute follow)

/-- The rungs of an interlock stand in the listing of its cylinder. -/
theorem Cylinder.exists_rung_isInfix {p : Plant} {o : Options} {c : Cylinder} {i : Interlock}
    {d : Condition} {r : Rung} {opening : List Instruction} (hc : c.isAddressable)
    (hi : i ∈ c.interlocks) (hd : d ∈ i.conditions) (hr : d.rung (c.scope p o) = .ok r)
    (hopening : i.opening o c = .ok opening) :
    ∃ key step, Item.numberFrom key step (r.items o opening) <:+:
      (p.generateCylinder o c).rows := by
  have hopening' : i.opening (c.scope p o).options (c.scope p o).cylinder = .ok opening :=
    hopening
  have hrung : r ∈ i.rungs (c.scope p o) := by
    simp only [Interlock.rungs, hopening', List.mem_filterMap]
    exact ⟨d, List.mem_mergeSort.mpr hd, toOption_eq_some_iff.mpr hr⟩
  have hitems : r.items o opening <:+: i.items (c.scope p o) := by
    have hinfix := List.infix_of_mem_flatten
      (List.mem_map_of_mem (f := Rung.items (c.scope p o).options opening) hrung)
    simp only [Interlock.items, hopening', List.flatMap_def]
    exact hinfix.trans (List.suffix_cons _ _).isInfix
  have hinterlock : i.items (c.scope p o) <:+:
      c.sortedInterlocks.flatMap (Interlock.items (c.scope p o)) := by
    rw [List.flatMap_def]
    exact List.infix_of_mem_flatten (List.mem_map_of_mem (List.mem_mergeSort.mpr hi))
  have hcylinder : c.sortedInterlocks.flatMap (Interlock.items (c.scope p o)) <:+:
      c.items p o := by
    rw [items_eq hc, List.append_assoc]
    exact (List.prefix_append _ _).isInfix
  exact Item.exists_numberFrom_isInfix 1 0 (hitems.trans (hinterlock.trans hcylinder))

namespace Condition

/-- The rung of a condition joins the value of the opening with the truth of the condition. -/
theorem execute_rung {s : Scope} {d : Condition} {r : Rung} (hr : d.rung s = .ok r)
    {opening : List Instruction} {precondition : Memory → Bool}
    (hopening : ∀ m stack, follow ladder opening ⟨m, stack⟩ = some ⟨m, precondition m :: stack⟩) :
    ∃ truth, d.truth? s = some truth ∧ ∀ o key step m,
      execute ladder (Item.numberFrom key step (r.items o opening)) m =
        some ⟨m.memory.set r.device (d.joined (precondition m.memory) (truth m.memory)),
          [d.joined (precondition m.memory) (truth m.memory)]⟩ := by
  obtain ⟨hstatement, hok, -, -⟩ := rung_eq_ok hr
  obtain ⟨truth, htruth, hlogic⟩ := (d.logic_agrees s).exists_of_ok hok
  exact ⟨truth, htruth, fun o key step m =>
    Rung.execute_items hstatement hopening hlogic key step m⟩

/-- While the precondition of its interlock does not hold, the rung of a condition writes off
exactly if the condition is no alternative or does not hold either. -/
theorem execute_rung_of_precondition_eq_false {p : Plant} {o : Options} {c : Cylinder}
    {i : Interlock} {mode : RunMode} {d : Condition} {r : Rung} (hc : c.isAddressable)
    (hi : i ∈ c.interlocks) (hmode : i.runMode = some mode) (hd : d ∈ i.conditions)
    (hr : d.rung (c.scope p o) = .ok r) :
    ∃ opening truth key step, i.opening o c = .ok opening ∧
      d.truth? (c.scope p o) = some truth ∧
      Item.numberFrom key step (r.items o opening) <:+: (p.generateCylinder o c).rows ∧
      ∀ m, i.precondition o c mode m.memory = false → ∃ value stack,
        execute ladder (Item.numberFrom key step (r.items o opening)) m =
          some ⟨m.memory.set r.device value, stack⟩ ∧
        (value = false ↔ ¬(d.isAlternative ∧ truth m.memory)) := by
  obtain ⟨opening, hopening, hfollow⟩ := Interlock.exists_opening (o := o) hc hmode
  obtain ⟨truth, htruth, hexecute⟩ := execute_rung hr hfollow
  obtain ⟨key, step, hinfix⟩ := Cylinder.exists_rung_isInfix hc hi hd hr hopening
  refine ⟨opening, truth, key, step, hopening, htruth, hinfix, fun m hprecondition => ?_⟩
  refine ⟨_, _, hexecute o key step m, ?_⟩
  -- A conjunction with the precondition is off, a disjunction with it is the truth itself.
  rw [hprecondition, joined]
  cases d.isAlternative <;> simp

end Condition

/-- Without a request the bit of the press follows its inputs. -/
theorem execute_pressOverride : ∃ r opening truth key step,
    press.isAddressable ∧ pressLock ∈ press.interlocks ∧ pressLock.runMode = some .manual ∧
      pressOverride ∈ pressLock.conditions ∧
      pressOverride.rung (press.scope .empty .default) = .ok r ∧
      pressLock.opening .default press = .ok opening ∧
      pressOverride.truth? (press.scope .empty .default) = some truth ∧
      pressLock.precondition .default press .manual (· == "X0") = false ∧
      ∃ value stack, execute ladder (Item.numberFrom key step (r.items .default opening))
          (StackMachine.start (· == "X0")) =
        some ⟨Memory.set (· == "X0") r.device value, stack⟩ ∧
      (value = false ↔ ¬(pressOverride.isAlternative ∧ truth (· == "X0"))) := by
  have hc : press.isAddressable := by decide
  have hi : pressLock ∈ press.interlocks := List.mem_singleton_self _
  have hmode : pressLock.runMode = some .manual := rfl
  have hd : pressOverride ∈ pressLock.conditions := List.mem_singleton_self _
  obtain ⟨r, hr, hdevice⟩ := exists_rung_pressOverride (press.scope .empty .default)
  obtain ⟨opening, truth, key, step, hopening, htruth, -, hexecute⟩ :=
    Condition.execute_rung_of_precondition_eq_false hc hi hmode hd hr
  have hprecondition : pressLock.precondition .default press .manual (· == "X0") = false := by
    decide
  exact ⟨r, opening, truth, key, step, hc, hi, hmode, hd, hr, hopening, htruth, hprecondition,
    hexecute (StackMachine.start (· == "X0")) hprecondition⟩

/-- An input alone turns the bit of the press on: nobody has asked the press to move. -/
theorem pressOverride_ignores_precondition :
    pressLock.precondition .default press .manual (· == "X0") = false ∧
      ∃ r opening key step stack, pressOverride.rung (press.scope .empty .default) = .ok r ∧
        pressLock.opening .default press = .ok opening ∧
        Item.numberFrom key step (r.items .default opening) <:+:
          (Plant.empty.generateCylinder .default press).rows ∧
        execute ladder (Item.numberFrom key step (r.items .default opening))
            (StackMachine.start (· == "X0")) =
          some ⟨Memory.set (· == "X0") "M100" true, stack⟩ := by
  have hprecondition : pressLock.precondition .default press .manual (· == "X0") = false := by
    decide
  have hc : press.isAddressable := by decide
  have hi : pressLock ∈ press.interlocks := List.mem_singleton_self _
  have hmode : pressLock.runMode = some .manual := rfl
  have hd : pressOverride ∈ pressLock.conditions := List.mem_singleton_self _
  obtain ⟨r, hr, hdevice⟩ := exists_rung_pressOverride (press.scope .empty .default)
  obtain ⟨opening, hopening, hfollow⟩ :=
    Interlock.exists_opening (o := .default) hc hmode
  obtain ⟨truth, htruth, hexecute⟩ := Condition.execute_rung hr hfollow
  obtain ⟨key, step, hinfix⟩ := Cylinder.exists_rung_isInfix hc hi hd hr hopening
  rw [truth?_pressOverride] at htruth
  cases htruth
  refine ⟨hprecondition, r, opening, key, step, [true], hr, hopening, hinfix, ?_⟩
  rw [hexecute, hdevice]
  simp only [StackMachine.start, hprecondition]
  rfl

end InterlockLadder
