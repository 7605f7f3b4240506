import InterlockLadder.CommandLine.Workspace
import InterlockLadder.Proofs.Lowering
import Mathlib.Tactic.SplitIfs

/-! What is written to a file is read from it, and nothing else is touched. Where a path leads
depends only on which places there are and which of them are directories. Records added to the log
file keep both (`Workspace.Keeps`); a new file adds a place and keeps the directories
(`FileTree.Covers`). -/

namespace InterlockLadder

theorem lookup_filter_of_ne {α β : Type} [BEq α] [LawfulBEq α] [DecidableEq α] {a b : α}
    (h : a ≠ b) (l : List (α × β)) : (l.filter (·.1 ≠ b)).lookup a = l.lookup a := by
  induction l with
  | nil => rfl
  | cons x l ih =>
    obtain ⟨c, value⟩ := x
    by_cases hc : c = b
    · subst hc
      rw [List.filter_cons_of_neg (by simp), ih, List.lookup_cons, beq_eq_false_iff_ne.mpr h]
    · rw [List.filter_cons_of_pos (by simpa using hc), List.lookup_cons, List.lookup_cons, ih]

namespace FileTree

variable {t t' : FileTree} {p q place : Place} {path : String}

theorem node?_put_self (t : FileTree) (p : Place) (n : Node) : (t.put p n).node? p = some n :=
  List.lookup_cons_self

theorem node?_put_of_ne (h : q ≠ p) (n : Node) : (t.put p n).node? q = t.node? q := by
  change ((p, n) :: t.nodes.filter (·.1 ≠ p)).lookup q = t.nodes.lookup q
  simp only [List.lookup_cons, beq_eq_false_iff_ne.mpr h]
  exact lookup_filter_of_ne h t.nodes

/-! ## Following a path -/

/-- The step that one part of a path makes. -/
def enter (t : FileTree) (p : Place) (part : String) : Except PathFault Place :=
  if !t.isDirectory p then .error .notDirectory
  else if part = "" || part = "." then .ok p
  else if part = ".." then .ok p.dropLast
  else if 255 < part.utf8ByteSize then .error .nameTooLong
  else if (t.node? (p ++ [part])).isNone then .error .notFound
  else .ok (p ++ [part])

theorem follow_eq_foldlM (t : FileTree) (p : Place) (names : List String) :
    t.follow p names = names.foldlM t.enter p := by
  induction names generalizing p with
  | nil => rfl
  | cons part names ih =>
    rw [follow, List.foldlM_cons, enter]
    dsimp only
    split_ifs <;> first | rfl | exact ih _

/-- Every place of the tree is one of the other, with the same directories and the same home. -/
structure Covers (t t' : FileTree) : Prop where
  home : t'.home = t.home
  isDirectory : ∀ p, t'.isDirectory p = t.isDirectory p
  isSome : ∀ p, (t.node? p).isSome → (t'.node? p).isSome

theorem Covers.refl (t : FileTree) : t.Covers t :=
  ⟨rfl, fun _ => rfl, fun _ h => h⟩

theorem covers_put {n : Node} (hold : t.isDirectory p = false) (hnew : n ≠ .directory) :
    t.Covers (t.put p n) := by
  refine ⟨rfl, fun q => ?_, fun q hq => ?_⟩
  · by_cases h : q = p
    · subst h
      rw [hold, isDirectory, node?_put_self]
      simpa using hnew
    · rw [isDirectory, isDirectory, node?_put_of_ne h]
  · by_cases h : q = p
    · subst h
      rw [node?_put_self]
      rfl
    · rwa [node?_put_of_ne h]

theorem Covers.enter (h : t.Covers t') {part : String} (henter : t.enter p part = .ok q) :
    t'.enter p part = .ok q := by
  have hplace : (t'.node? (p ++ [part])).isNone → (t.node? (p ++ [part])).isNone := by
    simpa using mt (h.isSome (p ++ [part]))
  rw [FileTree.enter] at henter ⊢
  rw [h.isDirectory]
  split_ifs at henter ⊢ <;> simp_all

/-- What leads to a place of the tree leads there in the other. -/
theorem Covers.follow (h : t.Covers t') {names : List String} (hfollow : t.follow p names = .ok q) :
    t'.follow p names = .ok q := by
  rw [follow_eq_foldlM] at hfollow ⊢
  induction names generalizing p with
  | nil => exact hfollow
  | cons part names ih =>
    obtain ⟨next, hnext, hrest⟩ := bind_eq_ok_iff.mp hfollow
    exact bind_eq_ok_iff.mpr ⟨next, h.enter hnext, ih hrest⟩

theorem start_eq (h : t'.home = t.home) (path : String) : t'.start path = t.start path := by
  rw [start, start, h]

theorem Covers.find (h : t.Covers t') (hfind : t.find path = .ok place) :
    t'.find path = .ok place := by
  obtain ⟨_, haccept, hfollow⟩ := bind_eq_ok_iff.mp hfind
  refine bind_eq_ok_iff.mpr ⟨_, haccept, ?_⟩
  rw [start_eq h.home]
  exact h.follow hfollow

/-- A path that lets a file be written leads to a directory and from there to the name of the
file. -/
theorem exists_of_target (h : t.target path = .ok place) :
    acceptable path = .ok () ∧ ∃ above name parent, parts path = above ++ [name] ∧
      t.follow (t.start path) above = .ok parent ∧ t.isDirectory parent ∧
      (name ≠ "" ∧ name ≠ "." ∧ name ≠ "..") ∧ name.utf8ByteSize ≤ 255 ∧
      place = parent ++ [name] := by
  obtain ⟨_, haccept, htarget⟩ := bind_eq_ok_iff.mp h
  refine ⟨haccept, ?_⟩
  dsimp only at htarget
  split at htarget
  · cases htarget
  · next name above hparts =>
    obtain ⟨parent, hfollow, hplace⟩ := bind_eq_ok_iff.mp htarget
    split_ifs at hplace with hdirectory hname hlong
    cases hplace
    simp only [Bool.or_eq_true, decide_eq_true_eq, not_or] at hname
    obtain ⟨⟨hslash, hdot⟩, hdots⟩ := hname
    -- No slash ends the path, so that its last part is the name.
    cases hreversed : (parts path).reverse with
    | nil =>
      rw [hreversed] at hparts
      cases hparts
    | cons last others =>
      rw [hreversed] at hslash hparts
      have hlast : last ≠ "" := fun hempty => hslash (congrArg some hempty)
      rw [List.dropWhile_cons_of_neg (by simpa using hlast)] at hparts
      cases hparts
      exact ⟨above.reverse, name, parent, List.reverse_eq_cons_iff.mp hreversed, hfollow,
        by simpa using hdirectory, ⟨hlast, hdot, hdots⟩, Nat.not_lt.mp hlong, rfl⟩

/-- Once there is something at the place at which a path lets a file be written, the path leads
there. -/
theorem Covers.find_of_target (h : t.Covers t') (htarget : t.target path = .ok place)
    (hplace : (t'.node? place).isSome) : t'.find path = .ok place := by
  obtain ⟨haccept, above, name, parent, hparts, hfollow, hdirectory, hname, hlong, rfl⟩ :=
    exists_of_target htarget
  refine bind_eq_ok_iff.mpr ⟨_, haccept, ?_⟩
  rw [start_eq h.home, hparts, follow_eq_foldlM, List.foldlM_append, ← follow_eq_foldlM]
  refine bind_eq_ok_iff.mpr ⟨parent, h.follow hfollow, ?_⟩
  have henter : t'.enter parent name = .ok (parent ++ [name]) := by
    simp [FileTree.enter, h.isDirectory, hdirectory, hname, Nat.not_lt.mpr hlong,
      Option.isSome_iff_ne_none.mp hplace]
  rw [List.foldlM_cons, henter]
  rfl

theorem Covers.follow_eq (h : t.Covers t') (h' : t'.Covers t) (p : Place) (names : List String) :
    t'.follow p names = t.follow p names := by
  have henter : t'.enter = t.enter := by
    funext p part
    have hplace : (t'.node? (p ++ [part])).isNone = (t.node? (p ++ [part])).isNone := by
      rw [Bool.eq_iff_iff]
      simpa using not_congr ⟨h'.isSome (p ++ [part]), h.isSome (p ++ [part])⟩
    rw [FileTree.enter, FileTree.enter, h.isDirectory, hplace]
  rw [follow_eq_foldlM, follow_eq_foldlM, henter]

theorem Covers.find_eq (h : t.Covers t') (h' : t'.Covers t) (path : String) :
    t'.find path = t.find path := by
  simp only [FileTree.find, h.follow_eq h', start_eq h.home]

theorem Covers.target_eq (h : t.Covers t') (h' : t'.Covers t) (path : String) :
    t'.target path = t.target path := by
  simp only [target, h.follow_eq h', start_eq h.home, h.isDirectory]

theorem look_of_find (h : t.find path = .ok place) :
    t.look path = match t.node? place with
      | some n => .ok n
      | none => .error .notFound := by
  rw [look, h]
  cases hnode : t.node? place <;> simp [bind, Except.bind, hnode] <;> rfl

/-- A device takes the text and stays what it is. -/
theorem eq_of_writeAt_device {d : Device} (hnode : t.node? p = some (.device d)) {text : String}
    (h : t.writeAt p text = .ok t') : t' = t := by
  cases d <;> simp only [writeAt, hnode] at h
  · exact (Except.ok.inj h).symm
  · split at h
    · exact (Except.ok.inj h).symm
    · cases h
  · exact (Except.ok.inj h).symm
  · exact (Except.ok.inj h).symm

/-- Whether there is nothing at the place, or else a file. -/
def hasRoom (t : FileTree) (p : Place) : Bool :=
  match t.node? p with
  | none | some (.text _) | some .binary => true
  | some (.device _) | some .directory => false

theorem isDirectory_of_hasRoom (h : t.hasRoom p) : t.isDirectory p = false := by
  rw [hasRoom] at h
  split at h <;> simp_all [isDirectory]

theorem writeAt_of_hasRoom (h : t.hasRoom p) (text : String) :
    t.writeAt p text = .ok (t.put p (.text text)) := by
  rw [hasRoom] at h
  split at h <;> simp_all [writeAt]

/-- A path that lets a file be written leads to it when it is written. -/
theorem find_put (htarget : t.target path = .ok place) (hroom : t.hasRoom place) (text : String) :
    (t.put place (.text text)).find path = .ok place := by
  have hnew := t.node?_put_self place (.text text)
  exact (covers_put (isDirectory_of_hasRoom hroom) (by simp)).find_of_target htarget
    (by rw [hnew]; rfl)

end FileTree

namespace Workspace

variable {w w' : Workspace} {place : FileTree.Place} {path text : String}

/-- Records are added to the file at the place. -/
def LogsAt (w : Workspace) (place : FileTree.Place) : Prop :=
  ∃ level, w.logging = .file level place

/-- Records are added to the file at the path. -/
def LogsTo (w : Workspace) (path : String) : Prop :=
  ∃ place, w.files.find path = .ok place ∧ w.LogsAt place

/-- The file at the path holds the text, and is not the log. -/
def Holds (w : Workspace) (path text : String) : Prop :=
  ∃ place, w.files.find path = .ok place ∧ w.files.node? place = some (.text text) ∧
    ¬w.LogsAt place

/-- Writing to the path succeeds, and what is written can be read there. -/
def Stores (w : Workspace) (path : String) : Prop :=
  ∀ text, ∃ w', w.write path text = .ok w' ∧ w'.Holds path text

/-- The files are the same, except that records may have been added to the log. -/
structure Keeps (w w' : Workspace) : Prop where
  home : w'.files.home = w.files.home
  logging : w'.logging = w.logging
  node : ∀ place, w'.files.node? place = w.files.node? place ∨
    w.LogsAt place ∧ ∃ old new, w.files.node? place = some (.text old) ∧
      w'.files.node? place = some (.text new)

theorem look_of_holds (h : w.Holds path text) : w.files.look path = .ok (.text text) := by
  obtain ⟨place, hfind, hnode, -⟩ := h
  rw [FileTree.look_of_find hfind, hnode]

theorem read_of_holds (h : w.Holds path text) : w.files.read path = .ok (some text) := by
  rw [FileTree.read, look_of_holds h]
  rfl

theorem kind_of_holds (h : w.Holds path text) : w.files.kind path = .ok .file := by
  rw [FileTree.kind, look_of_holds h]
  rfl

theorem logsAt_congr (h : w'.logging = w.logging) : w'.LogsAt place ↔ w.LogsAt place := by
  rw [LogsAt, LogsAt, h]

/-! ## Records -/

namespace Keeps

theorem of_files (hfiles : w'.files = w.files) (hlogging : w'.logging = w.logging) : w.Keeps w' :=
  ⟨by rw [hfiles], hlogging, fun place => .inl (by rw [hfiles])⟩

theorem refl (w : Workspace) : w.Keeps w :=
  of_files rfl rfl

theorem trans {w'' : Workspace} (h : w.Keeps w') (h' : w'.Keeps w'') : w.Keeps w'' := by
  refine ⟨h'.home.trans h.home, h'.logging.trans h.logging, ?_⟩
  intro place
  rcases h'.node place with hnode' | ⟨hlog, old', new', hold', hnew'⟩
  · rw [hnode']
    exact h.node place
  · rw [logsAt_congr h.logging] at hlog
    rcases h.node place with hnode | ⟨-, old, new, hold, hnew⟩
    · exact .inr ⟨hlog, old', new', hnode ▸ hold', hnew'⟩
    · exact .inr ⟨hlog, old, new', hold, hnew'⟩

theorem isDirectory_eq (h : w.Keeps w') (place : FileTree.Place) :
    w'.files.isDirectory place = w.files.isDirectory place := by
  rw [FileTree.isDirectory, FileTree.isDirectory]
  rcases h.node place with hnode | ⟨-, old, new, hold, hnew⟩
  · rw [hnode]
  · rw [hold, hnew]
    rfl

theorem isSome_eq (h : w.Keeps w') (place : FileTree.Place) :
    (w'.files.node? place).isSome = (w.files.node? place).isSome := by
  rcases h.node place with hnode | ⟨-, old, new, hold, hnew⟩
  · rw [hnode]
  · rw [hold, hnew]
    rfl

theorem covers (h : w.Keeps w') : w.files.Covers w'.files where
  home := h.home
  isDirectory := h.isDirectory_eq
  isSome place hplace := (h.isSome_eq place).trans hplace

theorem covers_back (h : w.Keeps w') : w'.files.Covers w.files where
  home := h.home.symm
  isDirectory place := (h.isDirectory_eq place).symm
  isSome place hplace := (h.isSome_eq place).symm.trans hplace

theorem find_eq (h : w.Keeps w') (path : String) : w'.files.find path = w.files.find path :=
  h.covers.find_eq h.covers_back path

theorem target_eq (h : w.Keeps w') (path : String) : w'.files.target path = w.files.target path :=
  h.covers.target_eq h.covers_back path

theorem node_eq (h : w.Keeps w') (hplace : ¬w.LogsAt place) :
    w'.files.node? place = w.files.node? place :=
  (h.node place).resolve_right fun hlog => hplace hlog.1

theorem holds (h : w.Keeps w') (hheld : w.Holds path text) : w'.Holds path text := by
  obtain ⟨place, hfind, hnode, hlog⟩ := hheld
  exact ⟨place, by rw [h.find_eq, hfind], by rw [h.node_eq hlog, hnode],
    by rwa [logsAt_congr h.logging]⟩

/-- Unless it is the log, a file that a command keeps reads as before. -/
theorem read_eq (h : w.Keeps w') (hlog : ¬w.LogsTo path) :
    w'.files.read path = w.files.read path := by
  have hlook : w'.files.look path = w.files.look path := by
    have hfind := h.find_eq path
    cases hplace : w.files.find path with
    | error fault =>
      rw [FileTree.look, FileTree.look, hfind, hplace]
      rfl
    | ok place =>
      rw [FileTree.look_of_find (hfind.trans hplace), FileTree.look_of_find hplace,
        h.node_eq fun hlogs => hlog ⟨place, hplace, hlogs⟩]
  rw [FileTree.read, FileTree.read, hlook]

end Keeps

theorem files_of_printAt? (h : w.printAt? place text = some w') :
    w'.files = w.files ∧ w'.logging = w.logging := by
  rw [printAt?] at h
  split at h <;> cases h <;> exact ⟨rfl, rfl⟩

theorem keeps_appendAt (h : w.LogsAt place) (text : String) : w.Keeps (w.appendAt place text) := by
  rw [appendAt]
  cases hprint : w.printAt? place text with
  | some w' =>
    obtain ⟨hfiles, hlogging⟩ := files_of_printAt? hprint
    exact .of_files hfiles hlogging
  | none =>
    rw [Option.getD_none, FileTree.appendAt]
    split
    · next old hnode =>
      refine ⟨rfl, rfl, ?_⟩
      intro q
      by_cases hq : q = place
      · subst hq
        exact .inr ⟨h, old, old ++ text, hnode, FileTree.node?_put_self ..⟩
      · exact .inl (FileTree.node?_put_of_ne hq _)
    · exact .refl w

theorem keeps_note (w : Workspace) (r : Log.Record) : w.Keeps (w.note r) := by
  rw [note]
  split
  · exact .of_files rfl rfl
  · split
    · exact .of_files rfl rfl
    · exact .refl w
  · next level place hlogging =>
    split
    · exact keeps_appendAt ⟨level, hlogging⟩ _
    · exact .refl w

/-! ## Files -/

theorem write_of_hasRoom (htarget : w.files.target path = .ok place)
    (hroom : w.files.hasRoom place) (text : String) :
    w.write path text = .ok { w with files := w.files.put place (.text text) } := by
  have hprint : w.printAt? place text = none := by
    rw [FileTree.hasRoom] at hroom
    split at hroom <;> simp_all [printAt?]
  rw [write, htarget]
  change w.writeAt place text = _
  rw [writeAt, hprint, FileTree.writeAt_of_hasRoom hroom]
  rfl

theorem files_of_writeAt_device {d : FileTree.Device}
    (hnode : w.files.node? place = some (.device d)) (h : w.writeAt place text = .ok w') :
    w'.files = w.files := by
  rw [writeAt] at h
  split at h
  · next hprint =>
    cases h
    exact (files_of_printAt? hprint).1
  · obtain ⟨files, hfiles, rfl⟩ := map_eq_ok_iff.mp h
    exact FileTree.eq_of_writeAt_device hnode hfiles

/-- A file is replaced or made, or else a device takes the text. -/
theorem exists_of_write (h : w.write path text = .ok w') :
    ∃ place, w.files.target path = .ok place ∧
      (w.files.hasRoom place ∧ w' = { w with files := w.files.put place (.text text) } ∨
        (∃ d, w.files.node? place = some (.device d)) ∧ w'.files = w.files) := by
  obtain ⟨place, htarget, hwrite⟩ := bind_eq_ok_iff.mp h
  refine ⟨place, htarget, ?_⟩
  by_cases hroom : w.files.hasRoom place
  · rw [write_of_hasRoom htarget hroom] at h
    exact .inl ⟨hroom, (Except.ok.inj h).symm⟩
  · rw [FileTree.hasRoom] at hroom
    split at hroom
    · exact absurd rfl hroom
    · exact absurd rfl hroom
    · exact absurd rfl hroom
    · next d hnode => exact .inr ⟨⟨d, hnode⟩, files_of_writeAt_device hnode hwrite⟩
    · next hnode => simp [writeAt, printAt?, hnode, FileTree.writeAt, Except.map] at hwrite

/-- Paths at which written texts can be read are those that name a file or nothing yet, and not the
log. -/
theorem stores_iff : w.Stores path ↔
    ∃ place, w.files.target path = .ok place ∧ w.files.hasRoom place ∧ ¬w.LogsAt place := by
  constructor
  · intro h
    obtain ⟨w', hwrite, place', hfind, hnode, hlog⟩ := h "x"
    rcases exists_of_write hwrite with ⟨place, htarget, ⟨hroom, rfl⟩ | ⟨⟨d, hdevice⟩, hfiles⟩⟩
    · rw [FileTree.find_put htarget hroom] at hfind
      cases hfind
      exact ⟨place', htarget, hroom, hlog⟩
    · -- A device gives back nothing of what it takes.
      have hfound := (FileTree.Covers.refl _).find_of_target htarget (by rw [hdevice]; rfl)
      rw [hfiles, hfound] at hfind
      cases hfind
      rw [hfiles, hdevice] at hnode
      cases hnode
  · rintro ⟨place, htarget, hroom, hlog⟩ text
    exact ⟨_, write_of_hasRoom htarget hroom text, place, FileTree.find_put htarget hroom text,
      FileTree.node?_put_self .., hlog⟩

theorem Keeps.stores (h : w.Keeps w') (hstores : w.Stores path) : w'.Stores path := by
  obtain ⟨place, htarget, hroom, hlog⟩ := stores_iff.mp hstores
  refine stores_iff.mpr ⟨place, by rw [h.target_eq, htarget], ?_, by rwa [logsAt_congr h.logging]⟩
  rwa [FileTree.hasRoom, h.node_eq hlog]

/-- Writing changes no file but its own. -/
theorem holds_of_write (hstores : w.Stores path) (hwrite : w.write path text = .ok w')
    {other kept : String} (hheld : w.Holds other kept)
    (hother : w.files.find other ≠ w.files.target path) : w'.Holds other kept := by
  obtain ⟨place, htarget, hroom, -⟩ := stores_iff.mp hstores
  rw [write_of_hasRoom htarget hroom] at hwrite
  cases hwrite
  obtain ⟨q, hfind, hnode, hlog⟩ := hheld
  have hq : q ≠ place := fun hq => hother (by rw [hfind, htarget, hq])
  exact ⟨q, (FileTree.covers_put (FileTree.isDirectory_of_hasRoom hroom) (by simp)).find hfind,
    by rw [FileTree.node?_put_of_ne hq, hnode], hlog⟩

end Workspace

end InterlockLadder
