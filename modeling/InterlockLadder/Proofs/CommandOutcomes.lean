import InterlockLadder.CommandLine.Command
import InterlockLadder.Proofs.AddressRange
import InterlockLadder.Proofs.SavedDocuments
import InterlockLadder.Proofs.WrittenFiles
import Mathlib.Algebra.GroupWithZero.Nat

/-! What commands come to in a workspace. Most of their steps do nothing but print and add to the
log (`Command.IsQuiet`). Generation fails before it writes anything, or else it leaves a file that
loads as the listing it has generated. Checking counts the errors of the listings it is given. -/

namespace InterlockLadder

namespace Workspace

variable {α β : Type} {w w' : Workspace}

/-- The outcome of a command, and the workspace that it leaves. -/
def perform (w : Workspace) (command : Command.Step (StateM Workspace) α) :
    Except CommandError α × Workspace :=
  (command.run.run w : Id _)

/-- The command comes to the outcome and leaves a workspace with the property. -/
def Ends (w : Workspace) (command : Command.Step (StateM Workspace) α)
    (outcome : Except CommandError α) (after : Workspace → Prop) : Prop :=
  ∃ w', w.perform command = (outcome, w') ∧ after w'

variable {x : Command.Step (StateM Workspace) α} {f : α → Command.Step (StateM Workspace) β}
  {mid after : Workspace → Prop} {a : α} {e : CommandError} {outcome : Except CommandError β}

theorem perform_bind (x : Command.Step (StateM Workspace) α)
    (f : α → Command.Step (StateM Workspace) β) : w.perform (x >>= f) =
      ((ExceptT.bindCont f (w.perform x).1).run (w.perform x).2 : Id _) :=
  rfl

theorem Ends.bind (hx : w.Ends x (.ok a) mid)
    (hf : ∀ w', mid w' → w'.Ends (f a) outcome after) : w.Ends (x >>= f) outcome after := by
  obtain ⟨w₁, hperform₁, hmid⟩ := hx
  obtain ⟨w₂, hperform₂, hafter⟩ := hf w₁ hmid
  exact ⟨w₂, by rw [perform_bind, hperform₁]; exact hperform₂, hafter⟩

theorem Ends.bind_error (hx : w.Ends x (.error e) after) : w.Ends (x >>= f) (.error e) after := by
  obtain ⟨w', hperform, hafter⟩ := hx
  exact ⟨w', by rw [perform_bind, hperform]; rfl, hafter⟩

theorem ends_pure (a : α) (h : after w) : w.Ends (pure a) (.ok a) after :=
  ⟨w, rfl, h⟩

theorem ends_throw (e : CommandError) (h : after w) :
    w.Ends (throw e : Command.Step (StateM Workspace) α) (.error e) after :=
  ⟨w, rfl, h⟩

theorem Ends.imp {after' : Workspace → Prop} {outcome : Except CommandError α}
    (h : w.Ends x outcome after) (himp : ∀ w', after w' → after' w') : w.Ends x outcome after' := by
  obtain ⟨w', hperform, hafter⟩ := h
  exact ⟨w', hperform, himp w' hafter⟩

/-- The file at the path loads as the rows, and is not the log. -/
def HoldsListing (w : Workspace) (path : String) (rows : List Row) : Prop :=
  ∃ text, w.Holds path text ∧ Row.listOfJson text = .ok rows

theorem Keeps.holdsListing {path : String} {rows : List Row} (h : w.Keeps w')
    (hlisting : w.HoldsListing path rows) : w'.HoldsListing path rows := by
  obtain ⟨text, hheld, hrows⟩ := hlisting
  exact ⟨text, h.holds hheld, hrows⟩

end Workspace

/-- The options in a text, or else the default ones. -/
def Options.ofJson? : Option String → Except Malformed Options
  | some text => ofJson text
  | none => .ok .default

namespace Command

open Workspace

variable {w w' : Workspace} {path text : String}

/-! ## Steps that print and log -/

/-- The step succeeds and changes no file but the log. -/
def IsQuiet (x : Step (StateM Workspace) Unit) : Prop :=
  ∀ w : Workspace, w.Ends x (.ok ()) w.Keeps

theorem IsQuiet.bind {α : Type} {x : Step (StateM Workspace) Unit}
    {f : Unit → Step (StateM Workspace) α} {outcome : Except CommandError α}
    {after : Workspace → Prop} (hx : IsQuiet x) (hkeeps : w.Keeps w')
    (hf : ∀ w'', w.Keeps w'' → w''.Ends (f ()) outcome after) : w'.Ends (x >>= f) outcome after :=
  (hx w').bind fun w'' hkeeps' => hf w'' (hkeeps.trans hkeeps')

theorem isQuiet_pure : IsQuiet (pure ()) :=
  fun w => ends_pure () (.refl w)

theorem isQuiet_record (r : Log.Record) : IsQuiet (Host.note (m := StateM Workspace) r) :=
  fun w => ⟨w.note r, rfl, w.keeps_note r⟩

theorem isQuiet_print (text : String) : IsQuiet (Host.print (m := StateM Workspace) text) :=
  fun w => ⟨{ w with stdout := w.stdout ++ text }, rfl, .of_files rfl rfl⟩

theorem isQuiet_complain (text : String) : IsQuiet (Host.complain (m := StateM Workspace) text) :=
  fun w => ⟨{ w with stderr := w.stderr ++ text }, rfl, .of_files rfl rfl⟩

theorem isQuiet_note (level : Log.Level) (message : String) :
    IsQuiet (note (m := StateM Workspace) level message) :=
  isQuiet_record _

theorem isQuiet_report (quiet : Bool) (d : Diagnostic) :
    IsQuiet (report (m := StateM Workspace) quiet d) := by
  cases quiet with
  | true => exact isQuiet_record _
  | false => exact isQuiet_complain _

theorem isQuiet_forM {α : Type} {f : α → Step (StateM Workspace) Unit} (h : ∀ a, IsQuiet (f a))
    (as : List α) : IsQuiet (as.forM f) := by
  induction as with
  | nil => exact isQuiet_pure
  | cons a as ih =>
    exact fun w => (h a).bind (.refl w) fun w' hkeeps => (ih w').imp fun _ => hkeeps.trans

/-! ## Files -/

theorem ends_ask {α : Type} {answer : StateM Workspace (Except PathFault α)} {a : α}
    (h : answer w = (.ok a, w')) (cause : PathFault → CommandError) :
    w.Ends (ask answer cause) (.ok a) (· = w') := by
  have hanswer : w.Ends (liftM answer : Step (StateM Workspace) (Except PathFault α))
      (.ok (.ok a)) (· = w') := by
    refine ⟨w', ?_, rfl⟩
    change ((Except.ok (answer w).1 : Except CommandError _), (answer w).2) = _
    rw [h]
  exact hanswer.bind fun w₁ hw₁ => ends_pure a hw₁

theorem ends_loadFile {α : Type} {ofJson : String → Except Malformed α} (h : w.Holds path text) :
    w.Ends (loadFile ofJson path) ((ofJson text).mapError .malformed) (· = w) := by
  have hread : (Host.read path : StateM Workspace _) w = (.ok (some text), w) :=
    congrArg (·, w) (read_of_holds h)
  refine (ends_ask hread _).bind ?_
  rintro _ rfl
  dsimp only
  cases ofJson text with
  | ok a => exact ends_pure a rfl
  | error cause => exact ends_throw _ rfl

theorem ends_filesOf (h : w.Holds path text) : w.Ends (filesOf path) (.ok [path]) (· = w) := by
  have hkind : (Host.kind path : StateM Workspace _) w = (.ok .file, w) :=
    congrArg (·, w) (kind_of_holds h)
  exact (ends_ask hkind _).bind fun w₁ hw₁ => ends_pure [path] hw₁

/-! ## Checking -/

/-- The number of the errors in a listing. -/
def countErrors (mark : String) (rows : List Row) : Nat :=
  ((validate mark rows).filter Issue.isError).length

theorem ends_checkFile {rows : List Row} (h : w.HoldsListing path rows) (mark : String)
    (quiet : Bool) : w.Ends (checkFile mark quiet path) (.ok (countErrors mark rows)) w.Keeps := by
  obtain ⟨text, hheld, hrows⟩ := h
  have hload : w.Ends (loadFile Row.listOfJson path) _ (· = w) := ends_loadFile hheld
  rw [hrows] at hload
  refine hload.bind ?_
  rintro _ rfl
  refine (isQuiet_forM isQuiet_record _).bind (.refl _) ?_
  intro w₁ h₁
  refine (isQuiet_note _ _).bind h₁ ?_
  intro w₂ h₂
  cases quiet with
  | true => exact ends_pure _ h₂
  | false =>
    exact (isQuiet_forM (fun issue => isQuiet_complain _) _).bind h₂ fun w₃ h₃ => ends_pure _ h₃

theorem ends_files {files : List (String × List Row)}
    (h : ∀ file ∈ files, w.HoldsListing file.1 file.2) :
    w.Ends ((files.map Prod.fst).mapM filesOf) (.ok (files.map fun file => [file.1])) (· = w) := by
  induction files with
  | nil => exact ends_pure [] rfl
  | cons file files ih =>
    obtain ⟨⟨text, hheld, -⟩, hfiles⟩ := List.forall_mem_cons.mp h
    rw [List.map_cons, List.mapM_cons]
    refine (ends_filesOf hheld).bind ?_
    rintro _ rfl
    refine (ih hfiles).bind ?_
    rintro _ rfl
    exact ends_pure _ rfl

theorem ends_checkFiles {files : List (String × List Row)}
    (h : ∀ file ∈ files, w.HoldsListing file.1 file.2) (mark : String) (quiet : Bool) (n : Nat) :
    w.Ends ((files.map Prod.fst).foldlM
        (fun n path => return n + (← checkFile mark quiet path)) n)
      (.ok (n + (files.map fun file => countErrors mark file.2).sum)) w.Keeps := by
  induction files generalizing w n with
  | nil => exact ends_pure n (.refl w)
  | cons file files ih =>
    obtain ⟨hfile, hfiles⟩ := List.forall_mem_cons.mp h
    rw [List.map_cons, List.foldlM_cons, List.map_cons, List.sum_cons, ← Nat.add_assoc]
    refine Ends.bind ((ends_checkFile hfile mark quiet).bind fun w₁ h₁ => ends_pure _ h₁) ?_
    intro w₁ h₁
    exact (ih (fun file hfile => h₁.holdsListing (hfiles file hfile)) _).imp fun _ => h₁.trans

/-- What a number of errors comes to. -/
def verdict (errors : Nat) : Except CommandError Unit :=
  if 0 < errors then .error (.errors errors) else .ok ()

theorem ends_check {files : List (String × List Row)}
    (h : ∀ file ∈ files, w.HoldsListing file.1 file.2) (mark : String) (quiet : Bool) :
    w.Ends (check (files.map Prod.fst) mark quiet)
      (verdict (files.map fun file => countErrors mark file.2).sum) w.Keeps := by
  have hfiles : (files.map fun file => [file.1]).flatten = files.map Prod.fst := by
    rw [← List.flatMap_def, ← List.map_eq_flatMap]
  refine (ends_files h).bind ?_
  rintro _ rfl
  rw [hfiles]
  refine (ends_checkFiles h mark quiet 0).bind ?_
  intro w₁ h₁
  rw [Nat.zero_add, verdict]
  dsimp only
  split
  · exact Ends.bind_error (ends_throw _ h₁)
  · exact (isQuiet_print "OK\n" w₁).imp fun _ => h₁.trans

/-! ## Generating -/

/-- The options of a run: those in the file, or else the default ones. -/
def loadOptions : Option String → Step (StateM Workspace) Options
  | some path => loadFile Options.ofJson path
  | none => pure .default

/-- What generation does once its diagnostics are reported. -/
def publish (output : Option String) (quiet : Bool) (generation : Generation) :
    Step (StateM Workspace) Unit := do
  let diagnostics := generation.diagnostics
  if diagnostics.any Diagnostic.critical then throw (.aborted diagnostics.length)
  let text := Row.listToJson .pretty generation.rows
  match output with
  | some path => ask (Host.write (m := StateM Workspace) path text) (.unwritableFile path)
  | none => unless quiet do Host.print (m := StateM Workspace) (text ++ "\n")
  note .debug ("Generated " ++ toString generation.rows.length ++ " rows with " ++
    toString diagnostics.length ++ " problems")

/-- What generation does once its documents are loaded. -/
def produce (model : String) (output : Option String) (quiet : Bool) (p : Plant) (o : Options) :
    Step (StateM Workspace) Unit := do
  note .info ("Generating " ++ toString p.cylinders.length ++ " cylinders from " ++ model)
  let generation := p.generate o
  generation.notes.forM fun r => Host.note (m := StateM Workspace) r
  generation.diagnostics.forM (report quiet)
  publish output quiet generation

theorem generate_eq (model : String) (options output : Option String) (quiet : Bool) :
    generate model options output quiet = (do
      let p ← loadFile Plant.ofJson model
      let o ← loadOptions options
      produce model output quiet p o) := by
  cases options <;> rfl

theorem ends_loadOptions {options optionsText : Option String}
    (h : Option.Rel w.Holds options optionsText) : w.Ends (loadOptions options)
      ((Options.ofJson? optionsText).mapError .malformed) (· = w) := by
  cases h with
  | none => exact ends_pure _ rfl
  | some hheld => exact ends_loadFile hheld

theorem any_critical_generate (p : Plant) (o : Options) :
    (p.generate o).diagnostics.any Diagnostic.critical = p.cylinders.isEmpty := by
  rw [← Bool.coe_iff_coe, List.any_eq_true, p.exists_critical_iff o, List.isEmpty_iff]

/-- What is reported changes no file but the log. -/
theorem ends_produce {p : Plant} {model : String} {output : Option String} {quiet : Bool}
    {o : Options} {outcome : Except CommandError Unit} {after : Workspace → Prop}
    (h : ∀ w', w.Keeps w' → w'.Ends (publish output quiet (p.generate o)) outcome after) :
    w.Ends (produce model output quiet p o) outcome after := by
  refine (isQuiet_note _ _).bind (.refl w) ?_
  intro w₁ h₁
  refine (isQuiet_forM isQuiet_record _).bind h₁ ?_
  intro w₂ h₂
  exact (isQuiet_forM (isQuiet_report quiet) _).bind h₂ h

/-- Without a cylinder, nothing is written. -/
theorem ends_produce_of_nil {p : Plant} (h : p.cylinders = []) (model : String)
    (output : Option String) (quiet : Bool) (o : Options) :
    ∃ e, w.Ends (produce model output quiet p o) (.error e) w.Keeps := by
  refine ⟨.aborted (p.generate o).diagnostics.length, ?_⟩
  apply ends_produce
  intro w' hkeeps
  rw [publish, any_critical_generate, h]
  exact Ends.bind_error (ends_throw _ hkeeps)

/-- A run with cylinders leaves a document of its rows, and every other file as it was. -/
theorem ends_produce_of_ne_nil {p : Plant} (h : p.cylinders ≠ []) {output : String}
    (houtput : w.Stores output) (model : String) (quiet : Bool) (o : Options) :
    w.Ends (produce model (some output) quiet p o) (.ok ()) fun w' =>
      w'.Holds output (Row.listToJson .pretty (p.generate o).rows) ∧
        ∀ path text, w.Holds path text → w.files.find path ≠ w.files.target output →
          w'.Holds path text := by
  apply ends_produce
  intro w₁ h₁
  rw [publish, any_critical_generate, List.isEmpty_eq_false_iff.mpr h]
  have hstores := h₁.stores houtput
  obtain ⟨w₂, hwrite, hheld⟩ := hstores (Row.listToJson .pretty (p.generate o).rows)
  have hanswer : (Host.write output (Row.listToJson .pretty (p.generate o).rows) :
      StateM Workspace _) w₁ = (.ok (), w₂) := by
    change Workspace.change (·.write output _) w₁ = _
    rw [Workspace.change, hwrite]
  refine (ends_ask hanswer _).bind ?_
  rintro w₂ rfl
  refine (isQuiet_note _ _ w₂).imp ?_
  intro w₃ h₃
  refine ⟨h₃.holds hheld, ?_⟩
  intro path text hpath hother
  apply h₃.holds
  apply holds_of_write hstores hwrite (h₁.holds hpath)
  rwa [h₁.find_eq, h₁.target_eq]

/-- A run that has nothing to generate from fails, and changes no file but the log. -/
theorem exists_ends_generate_error {model : String} {options optionsText : Option String}
    (hmodel : w.Holds model text) (hoptions : Option.Rel w.Holds options optionsText)
    (h : ∀ p o, Plant.ofJson text = .ok p → Options.ofJson? optionsText = .ok o →
      p.cylinders = []) (output : Option String) (quiet : Bool) :
    ∃ e, w.Ends (generate model options output quiet) (.error e) w.Keeps := by
  have hplant : w.Ends (loadFile Plant.ofJson model) _ (· = w) := ends_loadFile hmodel
  have hgiven := ends_loadOptions hoptions
  rw [generate_eq]
  cases hp : Plant.ofJson text with
  | error cause =>
    rw [hp] at hplant
    exact ⟨.malformed cause, (hplant.imp fun _ hw => hw ▸ .refl _).bind_error⟩
  | ok p =>
    rw [hp] at hplant
    cases ho : Options.ofJson? optionsText with
    | error cause =>
      rw [ho] at hgiven
      refine ⟨.malformed cause, hplant.bind ?_⟩
      rintro _ rfl
      exact (hgiven.imp fun _ hw => hw ▸ .refl _).bind_error
    | ok o =>
      rw [ho] at hgiven
      obtain ⟨e, hproduce⟩ := ends_produce_of_nil (w := w) (h p o hp ho) model output quiet o
      refine ⟨e, hplant.bind ?_⟩
      rintro _ rfl
      refine hgiven.bind ?_
      rintro _ rfl
      exact hproduce

theorem ends_generate {model output : String} {options optionsText : Option String} {p : Plant}
    {o : Options} (hmodel : w.Holds model text)
    (hoptions : Option.Rel w.Holds options optionsText) (hp : Plant.ofJson text = .ok p)
    (ho : Options.ofJson? optionsText = .ok o) (hcylinders : p.cylinders ≠ [])
    (houtput : w.Stores output) (quiet : Bool) :
    w.Ends (generate model options (some output) quiet) (.ok ()) fun w' =>
      w'.Holds output (Row.listToJson .pretty (p.generate o).rows) ∧
        ∀ path text, w.Holds path text → w.files.find path ≠ w.files.target output →
          w'.Holds path text := by
  have hplant : w.Ends (loadFile Plant.ofJson model) _ (· = w) := ends_loadFile hmodel
  have hgiven := ends_loadOptions hoptions
  rw [hp] at hplant
  rw [ho] at hgiven
  rw [generate_eq]
  refine hplant.bind ?_
  rintro _ rfl
  refine hgiven.bind ?_
  rintro _ rfl
  exact ends_produce_of_ne_nil hcylinders houtput model quiet o

/-! ## Checking what is generated -/

theorem countErrors_generate {o : Options} (h : o.hasSignals) (p : Plant) (mark : String) :
    countErrors mark (p.generate o).rows = 0 := by
  have hrows : (p.generate o).rows = Source.listing o [.plant p] := by
    rw [Source.listing, List.flatMap_singleton]
    rfl
  have hgates : (Source.listing o [.plant p]).filter (Row.isBlankGate o) = [] :=
    List.filter_eq_nil_iff.mpr fun row _ => by simp [Row.isBlankGate_of_hasSignals h]
  have hwarnings : (DoubleCoil.issues (Source.listing o [.plant p])).filter Issue.isError = [] :=
    List.filter_eq_nil_iff.mpr fun issue hissue => by
      simp [Issue.isError, (DoubleCoil.problem_of_mem_issuesFrom hissue).2]
  rw [countErrors, hrows, validate, Source.listingIssues_listing, hgates, List.filter_append,
    hwarnings]
  rfl

theorem countErrors_pos_iff {files : List (String × List Row)} {mark : String} :
    0 < (files.map fun file => countErrors mark file.2).sum ↔
      ∃ file ∈ files, ∃ issue ∈ validate mark file.2, issue.isError := by
  simp [List.sum_pos_iff_exists_pos_nat, countErrors, List.length_pos_iff_exists_mem]

/-- Generated listings are accepted, wherever they are. -/
theorem ends_check_of_generated {paths : List String} {mark : String}
    (h : ∀ path ∈ paths, ∃ p o, Options.hasSignals o ∧
      w.HoldsListing path (Plant.generate p o).rows) (quiet : Bool) :
    w.Ends (check paths mark quiet) (.ok ()) w.Keeps := by
  have hfiles : ∃ files : List (String × List Row), files.map Prod.fst = paths ∧
      ∀ file ∈ files, w.HoldsListing file.1 file.2 ∧ countErrors mark file.2 = 0 := by
    induction paths with
    | nil => exact ⟨[], rfl, List.forall_mem_nil _⟩
    | cons path paths ih =>
      obtain ⟨⟨p, o, hsignals, hlisting⟩, hpaths⟩ := List.forall_mem_cons.mp h
      obtain ⟨files, rfl, hfiles⟩ := ih hpaths
      exact ⟨(path, (p.generate o).rows) :: files, rfl, List.forall_mem_cons.mpr
        ⟨⟨hlisting, countErrors_generate hsignals p mark⟩, hfiles⟩⟩
  obtain ⟨files, rfl, hfiles⟩ := hfiles
  have htotal : (files.map fun file => countErrors mark file.2).sum = 0 :=
    List.sum_eq_zero_iff_forall_eq_nat.mpr
      (List.forall_mem_map.mpr fun file hfile => (hfiles file hfile).2)
  have hcheck := ends_check (fun file hfile => (hfiles file hfile).1) mark quiet
  rwa [htotal] at hcheck

end Command

namespace Workspace

open Command

/-- **A run of generation fails without a trace, or else leaves a listing that is accepted.** It
fails if a document does not load or the plant has no cylinders, and then every file but the log is
as it was. Otherwise the output file loads as the rows of the run, and other files still hold what
they held. Such files are checked without an error if the options have all signals. The check of any
listings fails exactly if one has an error; it names the number of all their errors, whatever the
order of the files. -/
theorem ends_generate_and_check (w : Workspace) :
    (∀ model text options optionsText output quiet,
      w.Holds model text → Option.Rel w.Holds options optionsText →
      ((∀ p o, Plant.ofJson text = .ok p → Options.ofJson? optionsText = .ok o →
          p.cylinders = []) →
        ∃ e, w.Ends (generate model options (some output) quiet) (.error e) fun w' =>
          w.Keeps w' ∧ (¬w.LogsTo output → w'.files.read output = w.files.read output)) ∧
      (∀ p o, Plant.ofJson text = .ok p → Options.ofJson? optionsText = .ok o →
        p.cylinders ≠ [] → w.Stores output →
        w.Ends (generate model options (some output) quiet) (.ok ()) fun w' =>
          w'.HoldsListing output (p.generate o).rows ∧
          w'.Ends (loadFile Row.listOfJson output) (.ok (p.generate o).rows) (· = w') ∧
          ∀ path kept, w.Holds path kept → w.files.find path ≠ w.files.target output →
            w'.Holds path kept)) ∧
    (∀ paths mark quiet, (∀ path ∈ paths, ∃ p o, Options.hasSignals o ∧
        w.HoldsListing path (Plant.generate p o).rows) →
      w.Ends (check paths mark quiet) (.ok ()) w.Keeps) ∧
    (∀ (files : List (String × List Row)) mark quiet,
      (∀ file ∈ files, w.HoldsListing file.1 file.2) →
      ∃ total, total = (files.map fun file =>
          ((validate mark file.2).filter Issue.isError).length).sum ∧
        (0 < total ↔ ∃ file ∈ files, ∃ issue ∈ validate mark file.2, issue.isError) ∧
        ∀ files' : List (String × List Row), files'.Perm files →
          w.Ends (check (files'.map Prod.fst) mark quiet)
            (if 0 < total then .error (.errors total) else .ok ()) w.Keeps) := by
  refine ⟨?_, ?_, ?_⟩
  · intro model text options optionsText output quiet hmodel hoptions
    refine ⟨?_, ?_⟩
    · intro h
      obtain ⟨e, hgenerate⟩ :=
        exists_ends_generate_error hmodel hoptions h (some output) quiet
      exact ⟨e, hgenerate.imp fun w' hkeeps => ⟨hkeeps, hkeeps.read_eq⟩⟩
    · intro p o hp ho hcylinders houtput
      refine (ends_generate hmodel hoptions hp ho hcylinders houtput quiet).imp ?_
      rintro w' ⟨hheld, hothers⟩
      have hrows := Row.reloads.load_save .pretty (p.generate o).rows trivial
      have hload : w'.Ends (loadFile Row.listOfJson output) _ (· = w') := ends_loadFile hheld
      rw [hrows] at hload
      exact ⟨⟨_, hheld, hrows⟩, hload, hothers⟩
  · intro paths mark quiet h
    exact ends_check_of_generated h quiet
  · intro files mark quiet h
    refine ⟨_, rfl, countErrors_pos_iff, ?_⟩
    intro files' hperm
    rw [(hperm.map _).sum_nat.symm]
    exact ends_check (fun file hfile => h file (hperm.mem_iff.mp hfile)) mark quiet

end Workspace

/-! ## A desk -/

/-- A working directory with three documents. -/
def deskWith (press nothing loose : String) : Workspace where
  files :=
    { nodes := [([], .directory), (["work"], .directory), (["work", "press.json"], .text press),
        (["work", "nothing.json"], .text nothing), (["work", "loose.json"], .text loose)]
      home := ["work"] }
  time := ""

def onePress : Plant where
  cylinders := [press]
  sensors := []
  processSteps := []

/-- A row whose contact continues nothing. -/
def looseRows : List Row :=
  [{ key := 1, opcode := "AND", operand := "X0" }]

/-- A plant, one without cylinders, and a listing that has an error. -/
def desk : Workspace :=
  deskWith (onePress.toJson .compact) (Plant.empty.toJson .compact)
    (Row.listToJson .pretty looseRows)

theorem holds_deskWith (press nothing loose : String) :
    (deskWith press nothing loose).Holds "press.json" press ∧
      (deskWith press nothing loose).Holds "nothing.json" nothing ∧
      (deskWith press nothing loose).Holds "loose.json" loose ∧
      (deskWith press nothing loose).Stores "rows.json" ∧
      ¬(deskWith press nothing loose).LogsTo "rows.json" := by
  have hlog : ∀ place, ¬(deskWith press nothing loose).LogsAt place := by
    rintro place ⟨level, hlogging⟩
    cases hlogging
  exact ⟨⟨["work", "press.json"], by rfl, by rfl, hlog _⟩,
    ⟨["work", "nothing.json"], by rfl, by rfl, hlog _⟩,
    ⟨["work", "loose.json"], by rfl, by rfl, hlog _⟩,
    Workspace.stores_iff.mpr ⟨["work", "rows.json"], by rfl, by rfl, hlog _⟩,
    fun ⟨place, _, hlogs⟩ => hlog place hlogs⟩

theorem ofJson_onePress : Plant.ofJson (onePress.toJson .compact) = .ok onePress := by
  apply Plant.reloads.load_save
  intro c hc i hi d hd tag htag
  obtain rfl := List.mem_singleton.mp hc
  obtain rfl := List.mem_singleton.mp hi
  obtain rfl := List.mem_singleton.mp hd
  cases htag

theorem ofJson_empty : Plant.ofJson (Plant.empty.toJson .compact) = .ok .empty :=
  Plant.reloads.load_save .compact .empty fun _ hc => absurd hc List.not_mem_nil

/-- The press is generated, and checked twice over. The plant without cylinders leaves no file
behind, and the error in the listing counts as often as the listing is named. -/
theorem generate_and_check_desk :
    desk.Holds "press.json" (onePress.toJson .compact) ∧
      desk.Holds "nothing.json" (Plant.empty.toJson .compact) ∧
      desk.Stores "rows.json" ∧ ¬desk.LogsTo "rows.json" ∧
      desk.HoldsListing "loose.json" looseRows ∧
      Plant.ofJson (onePress.toJson .compact) = .ok onePress ∧ onePress.cylinders ≠ [] ∧
      Plant.ofJson (Plant.empty.toJson .compact) = .ok .empty ∧ Options.default.hasSignals ∧
      desk.Ends (Command.generate "press.json" none (some "rows.json") false) (.ok ()) (fun w =>
        w.HoldsListing "rows.json" (onePress.generate .default).rows ∧
        w.Ends (Command.check ["rows.json", "rows.json"] "K" false) (.ok ()) w.Keeps) ∧
      (∃ e, desk.Ends (Command.generate "nothing.json" none (some "rows.json") false) (.error e)
        fun w => w.files.read "rows.json" = desk.files.read "rows.json") ∧
      desk.Ends (Command.check ["loose.json", "loose.json"] "K" false) (.error (.errors 2))
        desk.Keeps := by
  obtain ⟨hpress, hnothing, hloose, hrows, hlog⟩ : desk.Holds "press.json" _ ∧
      desk.Holds "nothing.json" _ ∧ desk.Holds "loose.json" _ ∧ desk.Stores "rows.json" ∧
      ¬desk.LogsTo "rows.json" := holds_deskWith _ _ _
  have hcylinders : onePress.cylinders ≠ [] := nofun
  have hsignals : Options.default.hasSignals := by decide
  have hlisting : desk.HoldsListing "loose.json" looseRows :=
    ⟨_, hloose, Row.reloads.load_save .pretty looseRows trivial⟩
  obtain ⟨hgenerate, -, hcheck⟩ := desk.ends_generate_and_check
  refine ⟨hpress, hnothing, hrows, hlog, hlisting, ofJson_onePress, hcylinders, ofJson_empty,
    hsignals, ?_, ?_, ?_⟩
  · obtain ⟨-, hpressed⟩ := hgenerate _ _ _ _ "rows.json" false hpress .none
    refine (hpressed onePress .default ofJson_onePress rfl hcylinders hrows).imp ?_
    rintro w ⟨hheld, -, -⟩
    obtain ⟨-, haccepted, -⟩ := w.ends_generate_and_check
    refine ⟨hheld, haccepted _ "K" false fun path hpath => ⟨onePress, .default, hsignals, ?_⟩⟩
    have hpath : path = "rows.json" := by simpa using hpath
    rwa [hpath]
  · obtain ⟨hfailed, -⟩ := hgenerate _ _ _ _ "rows.json" false hnothing .none
    obtain ⟨e, hends⟩ := hfailed fun p o hp _ => by
      rw [ofJson_empty] at hp
      cases hp
      rfl
    exact ⟨e, hends.imp fun w hafter => hafter.2 hlog⟩
  · obtain ⟨total, htotal, -, hends⟩ := hcheck
      [("loose.json", looseRows), ("loose.json", looseRows)] "K" false (by simpa using hlisting)
    have hone : ((validate "K" looseRows).filter Issue.isError).length = 1 := by decide +kernel
    obtain rfl : total = 2 := by simp [htotal, hone]
    have htwice := hends [("loose.json", looseRows), ("loose.json", looseRows)] (.refl _)
    rw [if_pos Nat.two_pos] at htwice
    exact htwice

end InterlockLadder
