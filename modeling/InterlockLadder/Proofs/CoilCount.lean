import InterlockLadder.Proofs.Attribution
import Mathlib.Data.Finset.Card
import Mathlib.Data.Finset.Dedup

/-! The double coils of a listing, pair by pair and in number. A row is one exactly if the device
that it sets was set by a row in front of it (`DoubleCoil.SameCoil`), so their number is that of the
coils less that of the devices (`DoubleCoil.length_issues_add_card`). It depends on the coils alone,
not on their order nor on what stands between them (`DoubleCoil.issues_are_repeated_coils`). -/

namespace InterlockLadder

/-- Whether the row is an `OUT` with an operand. -/
def Row.isCoil (row : Row) : Bool :=
  row.opcode? = some .out && !row.hasBlankOperand

namespace DoubleCoil

/-- Both rows are coils, and their operands agree up to the blanks around them and the case of
letters. -/
structure SameCoil (a b : Row) : Prop where
  left : a.isCoil
  right : b.isCoil
  device : Text.upper (Text.trim a.operand) = Text.upper (Text.trim b.operand)

/-- The coils of a listing. -/
def coils (rows : List Row) : List Row :=
  rows.filter Row.isCoil

/-- The devices that the coils of a listing set, each once. -/
def devices (rows : List Row) : Finset String :=
  ((coils rows).map fun row => Text.upper (Text.trim row.operand)).toFinset

variable {row earlier : Row} {rows rows' : List Row} {mark : String}

theorem device?_of_isCoil (h : row.isCoil) :
    device? row = some (Text.upper (Text.trim row.operand)) :=
  if_pos h

theorem device?_of_not_isCoil (h : ¬row.isCoil) : device? row = none :=
  if_neg h

theorem sameCoil_iff :
    SameCoil earlier row ↔ ∃ device, device? row = some device ∧ device? earlier = some device := by
  constructor
  · rintro ⟨hearlier, hrow, hdevice⟩
    exact ⟨_, device?_of_isCoil hrow, hdevice ▸ device?_of_isCoil hearlier⟩
  · rintro ⟨device, hrow, hearlier⟩
    obtain ⟨hrow, hdevice⟩ := Option.ite_none_right_eq_some.mp hrow
    obtain ⟨hearlier, hdevice'⟩ := Option.ite_none_right_eq_some.mp hearlier
    exact ⟨hearlier, hrow, Option.some.inj (hdevice'.trans hdevice.symm)⟩

theorem filterMap_device? (rows : List Row) : rows.filterMap device? =
    (coils rows).map fun row => Text.upper (Text.trim row.operand) := by
  rw [coils, ← List.filterMap_eq_map, List.filterMap_filter]
  rfl

/-! ## Which rows are double coils -/

theorem mem_rowIssues {front : List Row} {found : Issue} : found ∈ rowIssues front row ↔
    found = issue row ∧ ∃ earlier ∈ front, SameCoil earlier row := by
  simp only [rowIssues, List.mem_ite_nil_right, List.mem_singleton, Option.any_eq_true,
    decide_eq_true_eq, List.mem_filterMap, sameCoil_iff]
  constructor
  · rintro ⟨⟨device, hrow, earlier, hearlier, hdevice⟩, rfl⟩
    exact ⟨rfl, earlier, hearlier, device, hrow, hdevice⟩
  · rintro ⟨rfl, earlier, hearlier, device, hrow, hdevice⟩
    exact ⟨⟨device, hrow, earlier, hearlier, hdevice⟩, rfl⟩

/-- There is an issue at a position exactly if a row in front sets the same device. -/
theorem mem_locatedIssues_iff {j : Nat} {found : Issue} : (j, found) ∈ locatedIssues rows ↔
    ∃ row, rows[j]? = some row ∧ found = issue row ∧
      ∃ i < j, ∃ earlier, rows[i]? = some earlier ∧ SameCoil earlier row := by
  simp only [locatedIssues, mem_located, mem_rowIssues]
  refine exists_congr fun row => and_congr_right fun _ => and_congr_right fun _ => ?_
  simp only [List.mem_iff_getElem?, List.getElem?_take]
  constructor
  · rintro ⟨earlier, ⟨i, hi⟩, hsame⟩
    obtain ⟨hlt, hi⟩ := Option.ite_none_right_eq_some.mp hi
    exact ⟨i, hlt, earlier, hi, hsame⟩
  · rintro ⟨i, hlt, earlier, hi, hsame⟩
    exact ⟨earlier, ⟨i, by rw [if_pos hlt, hi]⟩, hsame⟩

/-- Rows that are not coils may be left out. -/
theorem issuesFrom_filter {p : Row → Bool} (h : ∀ row, row.isCoil → p row) (seen : List String)
    (rows : List Row) : issuesFrom seen (rows.filter p) = issuesFrom seen rows := by
  induction rows generalizing seen with
  | nil => rfl
  | cons row rows ih =>
    by_cases hcoil : row.isCoil
    · have hdevice := device?_of_isCoil hcoil
      rw [List.filter_cons_of_pos (h row hcoil), issuesFrom_cons_of_some hdevice,
        issuesFrom_cons_of_some hdevice, ih, ih]
    · have hdevice := device?_of_not_isCoil hcoil
      rw [issuesFrom_cons_of_none hdevice, ← ih seen, List.filter_cons]
      split
      · exact issuesFrom_cons_of_none hdevice
      · rfl

/-- Validation finds no double coil elsewhere. -/
theorem filter_validate_eq_issues (mark : String) (rows : List Row) :
    (validate mark rows).filter (·.problem = .duplicateOutput) = issues rows := by
  have hlisting : ∀ issue ∈ Expression.listingIssues mark rows,
      issue.problem ≠ .duplicateOutput := by
    intro issue hissue hproblem
    obtain hissue | hissue := List.mem_append.mp hissue
    · have hkind := Expression.problem_of_mem_rowIssues hissue
      simp [hproblem, Expression.faults, Expression.doubts] at hkind
    · obtain ⟨row, -, rfl⟩ := Expression.eq_of_mem_endIssues hissue
      cases hproblem
  rw [validate, List.filter_append,
    List.filter_eq_nil_iff.mpr fun issue hissue => by simp [hlisting issue hissue],
    List.filter_eq_self.mpr fun issue hissue => by simp [(problem_of_mem_issuesFrom hissue).1],
    List.nil_append]

/-! ## The number of double coils -/

theorem devices_append (rows rows' : List Row) :
    devices (rows ++ rows') = devices rows ∪ devices rows' := by
  rw [devices, coils, List.filter_append, List.map_append, List.toFinset_append]
  rfl

theorem length_coils_append (rows rows' : List Row) :
    (coils (rows ++ rows')).length = (coils rows).length + (coils rows').length := by
  rw [coils, List.filter_append, List.length_append]
  rfl

/-- A coil behind some rows is an issue or sets a new device. -/
theorem length_rowIssues_add_card (front : List Row) (row : Row) :
    (rowIssues front row).length + (devices (front ++ [row])).card =
      (coils [row]).length + (devices front).card := by
  rw [devices_append]
  by_cases hcoil : row.isCoil
  · have hdevice : devices [row] = {Text.upper (Text.trim row.operand)} := by
      simp [devices, coils, hcoil]
    have hseen : Text.upper (Text.trim row.operand) ∈ front.filterMap device? ↔
        Text.upper (Text.trim row.operand) ∈ devices front := by
      rw [filterMap_device?, devices, List.mem_toFinset]
    have hlength : (coils [row]).length = 1 := by simp [coils, hcoil]
    rw [rowIssues, device?_of_isCoil hcoil, hdevice, hlength, Finset.union_singleton]
    simp only [Option.any_some, hseen, decide_eq_true_eq]
    split
    · next hmem => rw [Finset.insert_eq_of_mem hmem, List.length_singleton]
    · next hmem =>
      rw [Finset.card_insert_of_notMem hmem, List.length_nil, Nat.zero_add, Nat.add_comm]
  · have hdevice : devices [row] = ∅ := by simp [devices, coils, hcoil]
    have hlength : (coils [row]).length = 0 := by simp [coils, hcoil]
    rw [rowIssues, device?_of_not_isCoil hcoil, hdevice, hlength, Finset.union_empty]
    rfl

theorem length_issuesFrom_add_card (front rows : List Row) :
    (issuesFrom (front.filterMap device?) rows).length + (devices (front ++ rows)).card =
      (coils rows).length + (devices front).card := by
  induction rows generalizing front with
  | nil =>
    rw [List.append_nil]
    rfl
  | cons row rows ih =>
    have hrow := length_rowIssues_add_card front row
    have hrest := ih (front ++ [row])
    have hcoils := length_coils_append [row] rows
    rw [List.append_assoc, List.singleton_append] at hrest
    rw [List.singleton_append] at hcoils
    rw [issuesFrom_cons, List.length_append]
    omega

/-- The double coils and the devices are together as many as the coils. -/
theorem length_issues_add_card (rows : List Row) :
    (issues rows).length + (devices rows).card = (coils rows).length :=
  length_issuesFrom_add_card [] rows

theorem length_issues_of_perm (h : rows.Perm rows') :
    (issues rows').length = (issues rows).length := by
  have hcoils : (coils rows).Perm (coils rows') := h.filter _
  have hdevices : devices rows = devices rows' := List.toFinset_eq_of_perm _ _ (hcoils.map _)
  have hcount := length_issues_add_card rows
  have hcount' := length_issues_add_card rows'
  rw [hdevices, hcoils.length_eq] at hcount
  omega

/-- A device that both parts set is one double coil more. -/
theorem length_issues_append (rows rows' : List Row) : (issues (rows ++ rows')).length =
    (issues rows).length + (issues rows').length + (devices rows ∩ devices rows').card := by
  have hboth := length_issues_add_card (rows ++ rows')
  have hcoils := length_coils_append rows rows'
  have hcard := Finset.card_union_add_card_inter (devices rows) (devices rows')
  have hcount := length_issues_add_card rows
  have hcount' := length_issues_add_card rows'
  rw [devices_append] at hboth
  omega

/-- **Double coils are exactly the coils that are set again.** They are the only issues of their
kind, at ascending positions, and there is one at a position exactly if a row in front of it sets
the same device. Together with the devices they are as many as the coils. So their number does not
depend on the order of the rows, rows that are no `OUT` do not count at all, and of two listings one
behind the other each device that both set is one more. -/
theorem issues_are_repeated_coils (mark : String) (rows : List Row) :
    (validate mark rows).filter (·.problem = .duplicateOutput) = issues rows ∧
      (locatedIssues rows).map Prod.snd = issues rows ∧
      (locatedIssues rows).Pairwise (fun x y => x.1 < y.1) ∧
      (∀ j found, (j, found) ∈ locatedIssues rows ↔
        ∃ row, rows[j]? = some row ∧ found = issue row ∧
          ∃ i < j, ∃ earlier, rows[i]? = some earlier ∧ SameCoil earlier row) ∧
      (issues rows).length + (devices rows).card = (coils rows).length ∧
      (∀ rows', rows.Perm rows' → (issues rows').length = (issues rows).length) ∧
      (∀ rows', rows.filter (·.opcode? = some .out) = rows'.filter (·.opcode? = some .out) →
        issues rows' = issues rows) ∧
      ∀ rows', (issues (rows ++ rows')).length =
        (issues rows).length + (issues rows').length + (devices rows ∩ devices rows').card := by
  refine ⟨filter_validate_eq_issues mark rows, map_snd_locatedIssues rows,
    pairwise_locatedIssues rows, fun _ _ => mem_locatedIssues_iff, length_issues_add_card rows,
    fun _ => length_issues_of_perm, fun rows' h => ?_, length_issues_append rows⟩
  have hout : ∀ row : Row, row.isCoil → decide (row.opcode? = some .out) = true :=
    fun _ hcoil => (Bool.and_eq_true_iff.mp hcoil).1
  rw [issues, ← issuesFrom_filter hout, ← h, issuesFrom_filter hout]
  rfl

/-- Two rungs that set one device, spelled in two ways, and a third that moves a value to it. -/
def sharedCoilRows : List Row :=
  [{ key := 1, opcode := "LD", operand := "X0" }, { key := 2, opcode := "OUT", operand := "Y10" },
    { key := 3, opcode := "LD", operand := "X1" },
    { key := 4, opcode := "out", operand := " y10\t" },
    { key := 5, opcode := "MOV", operand := "K1 Y10" }]

/-- In either order the second one is a double coil, and the loads do not count. -/
theorem issues_sharedCoilRows :
    sharedCoilRows.Perm sharedCoilRows.reverse ∧
      (issues sharedCoilRows.reverse).length = (issues sharedCoilRows).length ∧
      (issues sharedCoilRows).map (·.key) = [4] ∧
      (issues sharedCoilRows.reverse).map (·.key) = [2] ∧
      sharedCoilRows.filter (·.opcode? = some .out) =
        ((sharedCoilRows.take 4).drop 1).filter (·.opcode? = some .out) ∧
      issues ((sharedCoilRows.take 4).drop 1) = issues sharedCoilRows := by
  have hperm : sharedCoilRows.Perm sharedCoilRows.reverse := (List.reverse_perm _).symm
  have hout : sharedCoilRows.filter (·.opcode? = some .out) =
      ((sharedCoilRows.take 4).drop 1).filter (·.opcode? = some .out) := by
    decide +kernel
  obtain ⟨-, -, -, -, -, hreverse, hpart, -⟩ := issues_are_repeated_coils "K" sharedCoilRows
  exact ⟨hperm, hreverse _ hperm, by decide +kernel, by decide +kernel, hout, hpart _ hout⟩

end DoubleCoil

end InterlockLadder
