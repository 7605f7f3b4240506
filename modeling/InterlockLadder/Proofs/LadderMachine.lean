import InterlockLadder.Proofs.ItemRows

/-! The machine of a ladder controller: a memory of bits, and bits on the stack. A contact reads a
bit or its negation, and `OUT` copies the top of the stack to a bit. -/

namespace InterlockLadder

/-- The bits of a controller, by the text that names them. -/
abbrev Memory := String → Bool

/-- Changes one bit. -/
def Memory.set (m : Memory) (device : String) (value : Bool) : Memory :=
  fun other => if other = device then value else m other

namespace Opcode

/-- Whether the contact reads the negation of its bit. -/
def isNegated : Opcode → Bool
  | ldi | ani | ori => true
  | _ => false

/-- Whether two values are combined by disjunction. -/
def isDisjunctive : Opcode → Bool
  | or | ori | orp | orf | orb => true
  | _ => false

/-- The value of a contact. A single pass over a listing shows no edges, so the contacts that wait
for one are read as plain ones. -/
def contact (op : Opcode) (device : String) (m : Memory) : Bool :=
  if op.isNegated then !m device else m device

def combine (op : Opcode) (a b : Bool) : Bool :=
  if op.isDisjunctive then a || b else a && b

/-- The memory behind an instruction that reads the value `top`. The instructions that work on
words or on edges leave the bits alone. -/
def drive (op : Opcode) (device : String) (top : Bool) (m : Memory) : Memory :=
  match op with
  | out => m.set device top
  | set => if top then m.set device true else m
  | rst => if top then m.set device false else m
  | _ => m

end Opcode

/-- The usual meaning of the instructions of a ladder. -/
def ladder : Interpretation Memory Bool where
  load := Opcode.contact
  combine op device m top := op.combine top (op.contact device m)
  join := Opcode.combine
  store := Opcode.drive

namespace StackMachine

theorem follow_ld (device : String) (is : List Instruction) (m : Memory) (stack : List Bool) :
    follow ladder (⟨.ld, device⟩ :: is) ⟨m, stack⟩ = follow ladder is ⟨m, m device :: stack⟩ := by
  rw [follow_cons]
  rfl

/-- Contacts of one kind in a row combine the top of the stack with the bits of all devices. -/
theorem follow_contacts {op : Opcode} (h : op.family = .logic) (devices : List String)
    (m : Memory) (v : Bool) (stack : List Bool) :
    follow ladder (devices.map (⟨op, ·⟩)) ⟨m, v :: stack⟩ =
      some ⟨m, devices.foldl (fun v device => op.combine v (op.contact device m)) v :: stack⟩ := by
  induction devices generalizing v with
  | nil => rfl
  | cons device devices ih =>
    have hact : act ladder op device ⟨m, v :: stack⟩ =
        some ⟨m, op.combine v (op.contact device m) :: stack⟩ := by
      simp [act, h, ladder]
    rw [List.map_cons, follow_cons, hact, Option.bind_some, ih]
    rfl

end StackMachine

namespace Opcode

variable (m : Memory) (devices : List String) (v : Bool)

theorem foldl_combine_of_isDisjunctive {op : Opcode} (h : op.isDisjunctive) :
    devices.foldl (fun v device => op.combine v (op.contact device m)) v =
      (v || devices.any (op.contact · m)) := by
  induction devices generalizing v with
  | nil => simp
  | cons device devices ih =>
    rw [List.foldl_cons, ih]
    simp [combine, h, Bool.or_assoc]

theorem foldl_combine_of_not_isDisjunctive {op : Opcode} (h : op.isDisjunctive = false) :
    devices.foldl (fun v device => op.combine v (op.contact device m)) v =
      (v && devices.all (op.contact · m)) := by
  induction devices generalizing v with
  | nil => simp
  | cons device devices ih =>
    rw [List.foldl_cons, ih]
    simp [combine, h, Bool.and_assoc]

end Opcode

end InterlockLadder
