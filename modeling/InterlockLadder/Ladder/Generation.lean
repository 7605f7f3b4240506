import InterlockLadder.Ladder.Permission
import InterlockLadder.Ladder.Rung

/-! Generation of a listing. Each cylinder gives a block: for every interlock a statement and the
rungs of its conditions, then the permission rungs and a closing `NOP`. A defect costs only the
condition, interlock or cylinder that has it. -/

namespace InterlockLadder

namespace Interlock

/-- The rungs of the conditions that could be lowered. -/
def rungs (s : Scope) (i : Interlock) : List Rung :=
  match i.opening s.options s.cylinder with
  | .error _ => []
  | .ok _ => i.sortedConditions.filterMap fun condition => (condition.rung s).toOption

def items (s : Scope) (i : Interlock) : List Item :=
  .statement (s.cylinder.displayName ++ " " ++ i.displayName) ::
    match i.opening s.options s.cylinder with
    | .error _ => []
    | .ok opening => (i.rungs s).flatMap (Rung.items s.options opening)

def journal (s : Scope) (steps : List ProcessStep) (i : Interlock) : List Entry :=
  .debug ("Generating " ++ i.displayName ++ " of cylinder " ++ s.cylinder.displayName) ::
    i.openingJournal s.options steps s.cylinder ++
    match i.opening s.options s.cylinder with
    | .error _ => []
    | .ok _ => i.sortedConditions.flatMap fun condition => condition.journal s i

end Interlock

namespace Cylinder

/-- Whether all devices of the cylinder have a number. -/
def isAddressable (c : Cylinder) : Bool :=
  (c.device? Offset.greatest).isSome

def scope (p : Plant) (o : Options) (c : Cylinder) : Scope :=
  ⟨o, p.sensors, c⟩

/-- The devices that the rungs of the cylinder set, in the order of the rungs. -/
def outputs (s : Scope) : List String :=
  (s.cylinder.sortedInterlocks.flatMap (Interlock.rungs s)).map Rung.device

/-- The block of a cylinder; empty if one of its devices has no number. -/
def items (p : Plant) (o : Options) (c : Cylinder) : List Item :=
  let s := c.scope p o
  if c.isAddressable then
    c.sortedInterlocks.flatMap (Interlock.items s) ++
      (Permission.rungs? c (outputs s)).getD [] ++ [.instruction { opcode := .nop }]
  else []

/-- The report on permissions that cannot be addressed. -/
def permissionReport (s : Scope) : List Entry :=
  match Permission.rungs? s.cylinder (outputs s) with
  | some _ => []
  | none => [.report (Offset.outOfRange s.cylinder)]

def journal (p : Plant) (o : Options) (c : Cylinder) : List Entry :=
  let s := c.scope p o
  .debug ("Generating cylinder " ++ c.displayName ++ " (" ++ toString c.interlocks.length ++
      " interlocks)") ::
    if c.isAddressable then
      c.sortedInterlocks.flatMap (Interlock.journal s p.processSteps) ++ permissionReport s
    else [.report (Offset.outOfRange c)]

end Cylinder

/-- The outcome of a run. -/
structure Generation where
  rows : List Row
  journal : List Entry
deriving DecidableEq, Repr

namespace Generation

def diagnostics (g : Generation) : List Diagnostic :=
  g.journal.filterMap Entry.diagnostic?

/-- The log of a run whose diagnostics are collected elsewhere. -/
def notes (g : Generation) : List Log.Record :=
  g.journal.filterMap Entry.note?

/-- The log of a run whose diagnostics go there as well. -/
def records (g : Generation) : List Log.Record :=
  g.journal.map Entry.record

end Generation

/-- The listing of a single cylinder. -/
def Plant.generateCylinder (p : Plant) (o : Options) (c : Cylinder) : Generation :=
  ⟨Item.number (c.items p o), c.journal p o⟩

/-- The diagnostic of a plant without cylinders. -/
def noContent : Diagnostic :=
  { problem := .noContent, owner := .run, critical := true }

/-- The listing of all cylinders, in the order in which they are given. -/
def Plant.generate (p : Plant) (o : Options) : Generation :=
  if p.cylinders.isEmpty then ⟨[], [.report noContent]⟩
  else
    ⟨Item.number (p.cylinders.flatMap (Cylinder.items p o)),
      p.cylinders.flatMap (Cylinder.journal p o)⟩

end InterlockLadder
