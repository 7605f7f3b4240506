import InterlockLadder.Check.Listing
import InterlockLadder.Document.Load
import InterlockLadder.Ladder.Generation

/-! A session: a plant, its options and a listing that grows from step to step. A step that fails
changes nothing. -/

namespace InterlockLadder

structure Session where
  plant : Plant := .empty
  options : Options := .default
  literalMark : String := defaultLiteralMark
  /-- All diagnostics since the start. -/
  reported : List Diagnostic := []
  rows : List Row := []

namespace Session

inductive Step where
  | loadPlant (text : String)
  | loadOptions (text : String)
  | setMark (mark : String)
  | generate
  /-- Generates the cylinder at a position in the order of the plant. -/
  | generateCylinder (index : Nat)
  | loadRows (text : String)
  | removeRow (index : Nat)
  | clear
  | validate
  | listing
  | reports
deriving DecidableEq, Repr

inductive Answer where
  | plant (cylinders : Nat)
  | options (o : Options)
  | mark (mark : String)
  | added (rows : List Row) (reported : List Diagnostic) (size : Nat)
  | removed (row : Row)
  | cleared (size : Nat)
  | issues (issues : List Issue)
  | texts (lines : List String)
  | malformed (cause : Malformed)
  | noSuchIndex
deriving DecidableEq, Repr

/-- Adds the outcome of a run. -/
def add (s : Session) (g : Generation) : Session × Answer :=
  let rows := s.rows ++ g.rows
  ({ s with rows, reported := s.reported ++ g.diagnostics },
    .added g.rows g.diagnostics rows.length)

/-- Takes what was loaded, or answers why nothing was. -/
def take {α : Type} (s : Session) (loaded : Except Malformed α) (f : α → Session × Answer) :
    Session × Answer :=
  match loaded with
  | .ok a => f a
  | .error cause => (s, .malformed cause)

def step (s : Session) : Step → Session × Answer
  | .loadPlant text => s.take (Plant.ofJson text) fun plant =>
    ({ s with plant }, .plant plant.cylinders.length)
  | .loadOptions text => s.take (Options.ofJson text) fun options =>
    ({ s with options }, .options options)
  | .setMark mark => ({ s with literalMark := mark }, .mark mark)
  | .generate => s.add (s.plant.generate s.options)
  | .generateCylinder index =>
    match s.plant.cylinders[index]? with
    | some c => s.add (s.plant.generateCylinder s.options c)
    | none => (s, .noSuchIndex)
  | .loadRows text => s.take (Row.listOfJson text) fun rows => s.add ⟨rows, []⟩
  | .removeRow index =>
    match s.rows[index]? with
    | some row => ({ s with rows := s.rows.eraseIdx index }, .removed row)
    | none => (s, .noSuchIndex)
  | .clear => ({ s with rows := [] }, .cleared 0)
  | .validate => (s, .issues (InterlockLadder.validate s.literalMark s.rows))
  | .listing => (s, .texts (s.rows.map Row.listing))
  | .reports => (s, .texts (s.reported.map Diagnostic.display))

/-- What a step writes to the log. -/
def stepRecords (s : Session) : Step → List Log.Record
  | .generate => (s.plant.generate s.options).notes
  | .generateCylinder index =>
    match s.plant.cylinders[index]? with
    | some c => (s.plant.generateCylinder s.options c).notes
    | none => []
  | .validate => validationRecords s.literalMark s.rows
  | _ => []

/-- The answers of some steps, and the session behind them. -/
def run (s : Session) : List Step → Session × List Answer
  | [] => (s, [])
  | first :: rest =>
    let (next, answer) := s.step first
    let (last, answers) := next.run rest
    (last, answer :: answers)

/-- What some steps write to the log. -/
def runRecords (s : Session) : List Step → List Log.Record
  | [] => []
  | first :: rest => s.stepRecords first ++ (s.step first).1.runRecords rest

end Session

end InterlockLadder
