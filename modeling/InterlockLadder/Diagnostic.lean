import InterlockLadder.Log
import InterlockLadder.Plant.View
import InterlockLadder.Problem

/-! Diagnostics: problems of a plant, each owned by the run or by one record of the plant. A
diagnostic never stops generation by itself; only a critical one makes a run worthless. -/

namespace InterlockLadder

inductive Owner.Kind where
  | run
  | cylinder
  | interlock
  | condition
deriving DecidableEq, Repr

def Owner.Kind.name : Owner.Kind → String
  | run => "run"
  | cylinder => "cylinder"
  | interlock => "interlock"
  | condition => "condition"

/-- What a diagnostic is about. -/
structure Owner where
  kind : Owner.Kind
  id : UInt32
  name : String
deriving DecidableEq, Repr

namespace Owner

/-- The run as a whole. -/
def run : Owner :=
  ⟨.run, 0, ""⟩

def cylinder (c : Cylinder) : Owner :=
  ⟨.cylinder, c.id, c.displayName⟩

def interlock (c : Cylinder) (i : Interlock) : Owner :=
  ⟨.interlock, i.id, c.displayName ++ " " ++ i.displayName⟩

def condition (c : Cylinder) (i : Interlock) (d : Condition) : Owner :=
  ⟨.condition, d.id, c.displayName ++ " " ++ i.displayName ++ " " ++ d.displayName⟩

end Owner

structure Diagnostic where
  problem : Problem
  owner : Owner
  /-- Facts that narrow the problem down, each written `name=value`. -/
  described : List String := []
  critical : Bool := false
deriving DecidableEq, Repr

namespace Diagnostic

def code (d : Diagnostic) : String :=
  d.problem.code

/-- Adds the fact that `name` has the given value. -/
def describe (d : Diagnostic) (name value : String) : Diagnostic :=
  { d with described := d.described ++ [name ++ "=" ++ value] }

/-- The message of the problem, followed by the facts in parentheses. -/
def description (d : Diagnostic) : String :=
  match d.described with
  | [] => d.problem.message
  | facts => d.problem.message ++ " (" ++ ", ".intercalate facts ++ ")"

def display (d : Diagnostic) : String :=
  d.code ++ ": " ++ d.owner.kind.name ++ " " ++ toString d.owner.id.toNat ++ " '" ++ d.owner.name ++
    "': " ++ d.description

/-- The log record of a diagnostic: an error if it is critical, a warning otherwise. -/
def record (d : Diagnostic) : Log.Record :=
  ⟨if d.critical then .error else .warn, .diagnostic, d.display⟩

end Diagnostic

end InterlockLadder
