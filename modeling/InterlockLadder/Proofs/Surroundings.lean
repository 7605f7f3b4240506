import InterlockLadder.Ladder.Generation

/-! What the records of a plant read of the records around them. A condition or an interlock reads
the fields of its cylinder, but not the list of its interlocks (`Scope.among`), and a cylinder does
not read the list of the cylinders. So a block depends on these lists only where it walks them
(`Cylinder.items_congr`). -/

namespace InterlockLadder

/-- The scope of a cylinder that has the given interlocks instead of its own. -/
def Scope.among (s : Scope) (is : List Interlock) : Scope :=
  { s with cylinder := { s.cylinder with interlocks := is } }

theorem Interlock.journal_among (s : Scope) (is : List Interlock) (steps : List ProcessStep)
    (i : Interlock) : i.journal (s.among is) steps = i.journal s steps := rfl

namespace Cylinder

variable {p : Plant} {o : Options} {c : Cylinder} {is : List Interlock}

theorem items_among_cylinders (cs : List Cylinder) :
    c.items { p with cylinders := cs } o = c.items p o := rfl

theorem journal_among_cylinders (cs : List Cylinder) :
    c.journal { p with cylinders := cs } o = c.journal p o := rfl

/-- A block keeps its items, if the other interlocks have the same items and the same rungs. -/
theorem items_congr
    (hitems : { c with interlocks := is }.sortedInterlocks.flatMap
      (Interlock.items (c.scope p o)) = c.sortedInterlocks.flatMap (Interlock.items (c.scope p o)))
    (hrungs : { c with interlocks := is }.sortedInterlocks.flatMap
      (Interlock.rungs (c.scope p o)) =
        c.sortedInterlocks.flatMap (Interlock.rungs (c.scope p o))) :
    { c with interlocks := is }.items p o = c.items p o := by
  have houtputs : outputs ((c.scope p o).among is) = outputs (c.scope p o) :=
    congrArg (List.map Rung.device) hrungs
  change (if c.isAddressable then
      { c with interlocks := is }.sortedInterlocks.flatMap (Interlock.items (c.scope p o)) ++
        (Permission.rungs? c (outputs ((c.scope p o).among is))).getD [] ++
          [.instruction { opcode := .nop }]
    else []) = c.items p o
  rw [hitems, houtputs]
  rfl

/-- A block keeps its journal, if the other interlocks are as many and have the same journals and
the same rungs. -/
theorem journal_congr (hlength : is.length = c.interlocks.length)
    (hjournal : { c with interlocks := is }.sortedInterlocks.flatMap
      (Interlock.journal (c.scope p o) p.processSteps) =
        c.sortedInterlocks.flatMap (Interlock.journal (c.scope p o) p.processSteps))
    (hrungs : { c with interlocks := is }.sortedInterlocks.flatMap
      (Interlock.rungs (c.scope p o)) =
        c.sortedInterlocks.flatMap (Interlock.rungs (c.scope p o))) :
    { c with interlocks := is }.journal p o = c.journal p o := by
  have houtputs : outputs ((c.scope p o).among is) = outputs (c.scope p o) :=
    congrArg (List.map Rung.device) hrungs
  have hreport : permissionReport ((c.scope p o).among is) = permissionReport (c.scope p o) := by
    rw [permissionReport, houtputs]
    rfl
  change .debug ("Generating cylinder " ++ c.displayName ++ " (" ++ toString is.length ++
      " interlocks)") :: (if c.isAddressable then
        { c with interlocks := is }.sortedInterlocks.flatMap
          (Interlock.journal (c.scope p o) p.processSteps) ++
            permissionReport ((c.scope p o).among is)
      else [.report (Offset.outOfRange c)]) = c.journal p o
  rw [hlength, hjournal, hreport]
  rfl

end Cylinder

/-- A plant with cylinders has no rows and no entries but theirs. -/
theorem Plant.generate_of_ne_nil {p : Plant} (o : Options) (h : p.cylinders ≠ []) :
    p.generate o = ⟨Item.number (p.cylinders.flatMap (Cylinder.items p o)),
      p.cylinders.flatMap (Cylinder.journal p o)⟩ := by
  rw [generate, if_neg (by simpa using h)]

end InterlockLadder
