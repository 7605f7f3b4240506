import InterlockLadder.Proofs.Census
import InterlockLadder.Proofs.Isolation
import Mathlib.Data.List.Sigma

/-! What becomes of each record of a plant. A listing and its diagnostics are made up of postings,
one for each record: a cylinder is posted with its permissions or as out of range, an interlock
with its statement, and a condition with its rung or its defect (`Plant.generate_ledger`). As
records may be equal, a posting names the place of its record. -/

namespace InterlockLadder

/-- Where a record stands, given by positions. -/
inductive Place where
  | cylinder (a : Nat)
  | interlock (a b : Nat)
  | condition (site : Site)
deriving DecidableEq, Repr

/-- What a record adds to a listing, and to its diagnostics. -/
structure Posting where
  place : Place
  items : List Item
  diagnostics : List Diagnostic

namespace Posting

/-- A posting without an effect. -/
def silence (posting : Posting) : Posting :=
  ⟨posting.place, [], []⟩

theorem flatMap_items_silence (postings : List Posting) :
    (postings.map silence).flatMap items = [] := by
  rw [List.flatMap_map]
  exact List.flatMap_eq_nil_iff.mpr fun _ _ => rfl

theorem flatMap_diagnostics_silence (postings : List Posting) :
    (postings.map silence).flatMap diagnostics = [] := by
  rw [List.flatMap_map]
  exact List.flatMap_eq_nil_iff.mpr fun _ _ => rfl

end Posting

/-! ## What a record may give -/

/-- A cylinder gives four permissions and a `NOP`, unless it is out of range. -/
inductive Cylinder.Accounts (p : Plant) (o : Options) (c : Cylinder) :
    List Item → List Diagnostic → Prop
  | block (h : c.isAddressable) : Accounts p o c
      (Permission.all.flatMap (Permission.items c (outputs (c.scope p o))) ++
        [.instruction { opcode := .nop }]) []
  | outOfRange (h : ¬c.isAddressable) : Accounts p o c [] [Offset.outOfRange c]

/-- An interlock of a cylinder in range gives a statement. Without a run mode, or with a gate that
selects no address, it gives a diagnostic as well. -/
inductive Interlock.Accounts (s : Scope) (i : Interlock) : List Item → List Diagnostic → Prop
  | outOfRange (h : ¬s.cylinder.isAddressable) : Accounts s i [] []
  | noRunMode (h : s.cylinder.isAddressable) (hmode : i.runMode = none) : Accounts s i
      [.statement (s.cylinder.displayName ++ " " ++ i.displayName)]
      [{ problem := .missingRunModePrecondition, owner := .interlock s.cylinder i }]
  | unresolved (h : s.cylinder.isAddressable) (hmode : i.runMode.isSome) {g : Gate}
      (hgate : i.gate = some g) (haddress : g.address? = none) : Accounts s i
      [.statement (s.cylinder.displayName ++ " " ++ i.displayName)]
      [{ problem := .unresolvedPrecondition, owner := .interlock s.cylinder i,
         described := ["kind=" ++ g.kind.name] }]
  | complete (h : s.cylinder.isAddressable) (hmode : i.runMode.isSome)
      (hgate : ∀ g ∈ i.gate, g.address?.isSome) : Accounts s i
      [.statement (s.cylinder.displayName ++ " " ++ i.displayName)] []

/-- A condition of an interlock with a run mode gives either a rung, which begins with the opening
of the interlock, or a diagnostic of its own. -/
inductive Condition.Accounts (s : Scope) (i : Interlock) (d : Condition) :
    List Item → List Diagnostic → Prop
  | outOfRange (h : ¬s.cylinder.isAddressable) : Accounts s i d [] []
  | noRunMode (hmode : i.runMode = none) : Accounts s i d [] []
  | rung (h : s.cylinder.isAddressable) (hmode : i.runMode.isSome)
      {opening logic : List Instruction} {device : String} {number : UInt32}
      (hopening : i.opening s.options s.cylinder = .ok opening) (hlogic : d.logic s = .ok logic)
      (hdevice : d.assignedDevice? = some device) (hnumber : d.interlockNumber = some number) :
      Accounts s i d
        (.statement (d.comment?.getD d.displayName) :: List.map .instruction (opening ++ logic ++
          [⟨.out, device⟩, ⟨.mov, s.options.literal number ++ " " ++ s.options.errorDevice⟩])) []
  | defect (h : s.cylinder.isAddressable) (hmode : i.runMode.isSome) {diagnostic : Diagnostic}
      (hfailure : d.failure? s i = some diagnostic)
      (howner : diagnostic.owner = .condition s.cylinder i d) : Accounts s i d [] [diagnostic]

namespace Plant

/-- A posting is about the record at its place, and gives what the record may give. -/
inductive Accounts (p : Plant) (o : Options) : Posting → Prop
  | cylinder {a : Nat} {c : Cylinder} {items : List Item} {ds : List Diagnostic}
      (hc : p.cylinders[a]? = some c) (h : c.Accounts p o items ds) :
      Accounts p o ⟨.cylinder a, items, ds⟩
  | interlock {a b : Nat} {c : Cylinder} {i : Interlock} {items : List Item}
      {ds : List Diagnostic} (hc : p.cylinders[a]? = some c) (hi : c.interlocks[b]? = some i)
      (h : i.Accounts (c.scope p o) items ds) : Accounts p o ⟨.interlock a b, items, ds⟩
  | condition {a b n : Nat} {c : Cylinder} {i : Interlock} {d : Condition} {items : List Item}
      {ds : List Diagnostic} (hc : p.cylinders[a]? = some c) (hi : c.interlocks[b]? = some i)
      (hd : i.conditions[n]? = some d) (h : d.Accounts (c.scope p o) i items ds) :
      Accounts p o ⟨.condition ⟨a, b, n⟩, items, ds⟩

/-- There is a record at the place. -/
inductive Has (p : Plant) : Place → Prop
  | cylinder {a : Nat} {c : Cylinder} (hc : p.cylinders[a]? = some c) : Has p (.cylinder a)
  | interlock {a b : Nat} {c : Cylinder} {i : Interlock} (hc : p.cylinders[a]? = some c)
      (hi : c.interlocks[b]? = some i) : Has p (.interlock a b)
  | condition {a b n : Nat} {c : Cylinder} {i : Interlock} {d : Condition}
      (hc : p.cylinders[a]? = some c) (hi : c.interlocks[b]? = some i)
      (hd : i.conditions[n]? = some d) : Has p (.condition ⟨a, b, n⟩)

end Plant

/-! ## Ledgers -/

theorem nodup_snd_placed {α : Type} (key : α → UInt32) (xs : List α) :
    ((placed key xs).map Prod.snd).Nodup := by
  have hperm : (placed key xs).Perm xs.zipIdx := List.mergeSort_perm xs.zipIdx _
  exact (hperm.map Prod.snd).nodup_iff.mpr xs.nodup_zipIdx_map_snd

namespace Condition

/-- The posting of a condition whose cylinder is in range. -/
def posting (s : Scope) (i : Interlock) (site : Site) (d : Condition) : Posting :=
  match i.opening s.options s.cylinder with
  | .error _ => ⟨.condition site, [], []⟩
  | .ok opening =>
    match d.rung s with
    | .ok r => ⟨.condition site, r.items s.options opening, []⟩
    | .error defect => ⟨.condition site, [], [defect.diagnostic s.cylinder i d]⟩

variable (s : Scope) (i : Interlock) (site : Site) (d : Condition)

theorem place_posting : (d.posting s i site).place = .condition site := by
  rw [posting]
  split
  · rfl
  · split <;> rfl

theorem posting_of_error {diagnostic : Diagnostic}
    (h : i.opening s.options s.cylinder = .error diagnostic) :
    d.posting s i site = ⟨.condition site, [], []⟩ := by
  rw [posting, h]

theorem posting_of_ok {opening : List Instruction}
    (h : i.opening s.options s.cylinder = .ok opening) : d.posting s i site =
      ⟨.condition site, (d.rung s).toOption.toList.flatMap (Rung.items s.options opening),
        (d.failure? s i).toList⟩ := by
  rw [posting, h, failure?]
  cases d.rung s with
  | ok r => simp [Except.toOption]
  | error defect => rfl

end Condition

namespace Interlock

/-- The postings of an interlock whose cylinder is in range. -/
def ledger (s : Scope) (steps : List ProcessStep) (a b : Nat) (i : Interlock) : List Posting :=
  ⟨.interlock a b, [.statement (s.cylinder.displayName ++ " " ++ i.displayName)],
    (i.openingJournal s.options steps s.cylinder).filterMap Entry.diagnostic?⟩ ::
  (placed Condition.number i.conditions).map fun x => x.1.posting s i ⟨a, b, x.2⟩

variable (s : Scope) (steps : List ProcessStep) (a b : Nat) (i : Interlock)

theorem flatMap_items_ledger : (i.ledger s steps a b).flatMap Posting.items = i.items s := by
  rw [ledger, List.flatMap_cons, items, List.singleton_append, List.flatMap_map]
  refine congrArg _ ?_
  cases hopening : i.opening s.options s.cylinder with
  | error d => simp only [Condition.posting_of_error _ _ _ _ hopening, List.flatMap_eq_nil_iff,
      implies_true]
  | ok opening =>
    simp only [Condition.posting_of_ok _ _ _ _ hopening, rungs, hopening, sortedConditions,
      ← map_fst_placed, List.filterMap_eq_flatMap_toList, List.flatMap_map, List.flatMap_assoc]

theorem flatMap_diagnostics_ledger : (i.ledger s steps a b).flatMap Posting.diagnostics =
    (i.journal s steps).filterMap Entry.diagnostic? := by
  rw [ledger, List.flatMap_cons, journal, List.filterMap_append, List.filterMap_cons_none rfl,
    List.flatMap_map]
  refine congrArg _ ?_
  cases hopening : i.opening s.options s.cylinder with
  | error d => simp only [Condition.posting_of_error _ _ _ _ hopening, List.flatMap_eq_nil_iff,
      implies_true, List.filterMap_nil]
  | ok opening =>
    simp only [Condition.posting_of_ok _ _ _ _ hopening, sortedConditions, ← map_fst_placed,
      List.filterMap_flatMap, List.flatMap_map, Condition.filterMap_journal]

theorem map_place_ledger : (i.ledger s steps a b).map Posting.place = .interlock a b ::
    (placed Condition.number i.conditions).map fun x => .condition ⟨a, b, x.2⟩ := by
  rw [ledger, List.map_cons, List.map_map]
  simp only [Function.comp_def, Condition.place_posting]

end Interlock

namespace Cylinder

def ledger (p : Plant) (o : Options) (a : Nat) (c : Cylinder) : List Posting :=
  let s := c.scope p o
  let postings := (placed Interlock.sortId c.interlocks).flatMap fun x =>
    x.1.ledger s p.processSteps a x.2
  if c.isAddressable then
    postings ++ [⟨.cylinder a, Permission.all.flatMap (Permission.items c (outputs s)) ++
      [.instruction { opcode := .nop }], []⟩]
  else postings.map Posting.silence ++ [⟨.cylinder a, [], [Offset.outOfRange c]⟩]

variable (p : Plant) (o : Options) (a : Nat) (c : Cylinder)

theorem flatMap_items_ledger : (c.ledger p o a).flatMap Posting.items = c.items p o := by
  by_cases h : c.isAddressable
  · rw [ledger, if_pos h, items_eq h]
    simp only [List.flatMap_append, List.flatMap_assoc, Interlock.flatMap_items_ledger,
      List.flatMap_singleton, sortedInterlocks, ← map_fst_placed, List.flatMap_map,
      List.append_assoc]
  · rw [ledger, if_neg h, items_of_not_isAddressable p o c h, List.flatMap_append,
      Posting.flatMap_items_silence]
    rfl

theorem flatMap_diagnostics_ledger : (c.ledger p o a).flatMap Posting.diagnostics =
    (c.journal p o).filterMap Entry.diagnostic? := by
  by_cases h : c.isAddressable
  · rw [ledger, if_pos h, filterMap_journal, if_pos h]
    simp only [List.flatMap_append, List.flatMap_assoc, Interlock.flatMap_diagnostics_ledger,
      List.flatMap_singleton, sortedInterlocks, ← map_fst_placed, List.flatMap_map,
      List.append_nil]
  · rw [ledger, if_neg h, filterMap_journal, if_neg h, List.flatMap_append,
      Posting.flatMap_diagnostics_silence]
    rfl

/-- Out of range, a cylinder has the same postings, but only its own has an effect. -/
theorem map_place_ledger : (c.ledger p o a).map Posting.place =
    ((placed Interlock.sortId c.interlocks).flatMap fun x =>
      (x.1.ledger (c.scope p o) p.processSteps a x.2).map Posting.place) ++ [.cylinder a] := by
  rw [ledger]
  split
  · rw [List.map_append, List.map_flatMap]
    rfl
  · rw [List.map_append, List.map_map, List.map_flatMap]
    rfl

end Cylinder

def Plant.ledger (p : Plant) (o : Options) : List Posting :=
  p.cylinders.zipIdx.flatMap fun x => x.1.ledger p o x.2

/-! ## One posting for each record -/

namespace Place

/-- The position of the cylinder. -/
def cylinderAt : Place → Nat
  | cylinder a => a
  | interlock a _ => a
  | condition site => site.cylinder

/-- The position of the interlock, where the place is within one. -/
def interlockAt? : Place → Option Nat
  | cylinder _ => none
  | interlock _ b => some b
  | condition site => some site.interlock

end Place

namespace Interlock

variable {s : Scope} {steps : List ProcessStep} {a b : Nat} {i : Interlock}

theorem mem_map_place_ledger {place : Place} :
    place ∈ (i.ledger s steps a b).map Posting.place ↔ place = .interlock a b ∨
      ∃ n d, i.conditions[n]? = some d ∧ place = .condition ⟨a, b, n⟩ := by
  rw [map_place_ledger, List.mem_cons, List.mem_map]
  refine or_congr_right ⟨?_, ?_⟩
  · rintro ⟨x, hx, rfl⟩
    exact ⟨x.2, x.1, mem_placed.mp hx, rfl⟩
  · rintro ⟨n, d, hd, rfl⟩
    exact ⟨(d, n), mem_placed.mpr hd, rfl⟩

theorem position_of_mem_ledger {place : Place}
    (h : place ∈ (i.ledger s steps a b).map Posting.place) :
    place.cylinderAt = a ∧ place.interlockAt? = some b := by
  obtain rfl | ⟨n, d, -, rfl⟩ := mem_map_place_ledger.mp h
  · exact ⟨rfl, rfl⟩
  · exact ⟨rfl, rfl⟩

theorem nodup_map_place_ledger : ((i.ledger s steps a b).map Posting.place).Nodup := by
  rw [map_place_ledger]
  refine List.nodup_cons.mpr ⟨?_, List.pairwise_map.mpr ?_⟩
  · intro hmem
    obtain ⟨x, -, hx⟩ := List.mem_map.mp hmem
    cases hx
  · refine (List.pairwise_map.mp (nodup_snd_placed _ i.conditions)).imp fun hne heq => hne ?_
    injection heq with hsite
    injection hsite

end Interlock

namespace Cylinder

variable {p : Plant} {o : Options} {a : Nat} {c : Cylinder}

theorem mem_map_place_ledger {place : Place} :
    place ∈ (c.ledger p o a).map Posting.place ↔ place = .cylinder a ∨
      ∃ (b : Nat) (i : Interlock), c.interlocks[b]? = some i ∧
        place ∈ (i.ledger (c.scope p o) p.processSteps a b).map Posting.place := by
  rw [map_place_ledger, List.mem_append, List.mem_singleton, or_comm, List.mem_flatMap]
  refine or_congr_right ⟨?_, ?_⟩
  · rintro ⟨x, hx, hplace⟩
    exact ⟨x.2, x.1, mem_placed.mp hx, hplace⟩
  · rintro ⟨b, i, hi, hplace⟩
    exact ⟨(i, b), mem_placed.mpr hi, hplace⟩

theorem position_of_mem_ledger {place : Place} (h : place ∈ (c.ledger p o a).map Posting.place) :
    place.cylinderAt = a := by
  obtain rfl | ⟨b, i, -, hplace⟩ := mem_map_place_ledger.mp h
  · rfl
  · exact (Interlock.position_of_mem_ledger hplace).1

theorem nodup_map_place_ledger : ((c.ledger p o a).map Posting.place).Nodup := by
  rw [map_place_ledger]
  refine List.nodup_append.mpr ⟨?_, List.nodup_singleton _, ?_⟩
  · exact nodup_flatMap_of_position Place.interlockAt? (nodup_snd_placed _ _)
      (fun x _ => Interlock.nodup_map_place_ledger)
      fun x _ place hplace => (Interlock.position_of_mem_ledger hplace).2
  · intro place hplace other hother heq
    -- Every place below the cylinder is within an interlock, and its own is not.
    obtain ⟨x, -, hx⟩ := List.mem_flatMap.mp hplace
    have hposition := (Interlock.position_of_mem_ledger hx).2
    rw [heq, List.mem_singleton.mp hother] at hposition
    cases hposition

end Cylinder

namespace Plant

variable (p : Plant) (o : Options)

theorem nodup_map_place_ledger : ((p.ledger o).map Posting.place).Nodup := by
  rw [ledger, List.map_flatMap]
  exact nodup_flatMap_of_position (fun place => some place.cylinderAt)
    p.cylinders.nodup_zipIdx_map_snd (fun x _ => Cylinder.nodup_map_place_ledger)
    fun x _ place hplace => congrArg some (Cylinder.position_of_mem_ledger hplace)

theorem mem_map_place_ledger {place : Place} :
    place ∈ (p.ledger o).map Posting.place ↔ ∃ (a : Nat) (c : Cylinder),
      p.cylinders[a]? = some c ∧ place ∈ (c.ledger p o a).map Posting.place := by
  rw [ledger, List.map_flatMap, List.mem_flatMap]
  constructor
  · rintro ⟨x, hx, hplace⟩
    exact ⟨x.2, x.1, List.mem_zipIdx_iff_getElem?.mp hx, hplace⟩
  · rintro ⟨a, c, hc, hplace⟩
    exact ⟨(c, a), List.mem_zipIdx_iff_getElem?.mpr hc, hplace⟩

theorem mem_map_place_ledger_of_has {place : Place} (h : p.Has place) :
    place ∈ (p.ledger o).map Posting.place := by
  cases h with
  | cylinder hc =>
    exact (p.mem_map_place_ledger o).mpr ⟨_, _, hc, Cylinder.mem_map_place_ledger.mpr (.inl rfl)⟩
  | interlock hc hi =>
    exact (p.mem_map_place_ledger o).mpr ⟨_, _, hc, Cylinder.mem_map_place_ledger.mpr
      (.inr ⟨_, _, hi, Interlock.mem_map_place_ledger.mpr (.inl rfl)⟩)⟩
  | condition hc hi hd =>
    exact (p.mem_map_place_ledger o).mpr ⟨_, _, hc, Cylinder.mem_map_place_ledger.mpr
      (.inr ⟨_, _, hi, Interlock.mem_map_place_ledger.mpr (.inr ⟨_, _, hd, rfl⟩)⟩)⟩

end Plant

/-! ## The contents of the postings -/

namespace Condition

variable {s : Scope} {i : Interlock} {d : Condition}

theorem owner_of_failure? {diagnostic : Diagnostic} (h : d.failure? s i = some diagnostic) :
    diagnostic.owner = .condition s.cylinder i d := by
  rw [failure?] at h
  cases hrung : d.rung s with
  | ok r => simp [hrung] at h
  | error defect =>
    simp only [hrung, Option.some.injEq] at h
    rw [← h]
    cases defect <;> rfl

theorem statement_of_rung {r : Rung} (h : d.rung s = .ok r) :
    r.statement = d.comment?.getD d.displayName := by
  rw [rung] at h
  split at h
  · cases h
  · split at h
    · cases h
    · obtain ⟨logic, -, rfl⟩ := map_eq_ok_iff.mp h
      rfl

theorem exists_accounts (h : s.cylinder.isAddressable) (site : Site) : ∃ items ds,
    d.posting s i site = ⟨.condition site, items, ds⟩ ∧ d.Accounts s i items ds := by
  cases hmode : i.runMode with
  | none =>
    obtain ⟨diagnostic, hopening⟩ := i.opening_eq_error (o := s.options) (c := s.cylinder) hmode
    exact ⟨_, _, posting_of_error s i site d hopening, .noRunMode hmode⟩
  | some mode =>
    obtain ⟨opening, hopening, -⟩ := i.exists_opening (o := s.options) h hmode
    have hsome : i.runMode.isSome := by rw [hmode]; rfl
    refine ⟨_, _, posting_of_ok s i site d hopening, ?_⟩
    rw [failure?]
    cases hrung : d.rung s with
    | ok r =>
      obtain ⟨-, hlogic, hdevice, hnumber⟩ := rung_eq_ok hrung
      simp only [Except.toOption, Option.toList_some, Option.toList_none, List.flatMap_singleton,
        Rung.items, statement_of_rung hrung]
      exact .rung h hsome hopening hlogic hdevice hnumber
    | error defect =>
      have hfailure : d.failure? s i = some (defect.diagnostic s.cylinder i d) := by
        rw [failure?, hrung]
      exact .defect h hsome hfailure (owner_of_failure? hfailure)

end Condition

namespace Interlock

variable {s : Scope} {i : Interlock}

theorem filterMap_rangeNote (steps : List ProcessStep) (i : Interlock) :
    (i.rangeNote steps).filterMap Entry.diagnostic? = [] := by
  rw [rangeNote]
  split <;> rfl

theorem accounts_openingJournal (h : s.cylinder.isAddressable) (steps : List ProcessStep) :
    i.Accounts s [.statement (s.cylinder.displayName ++ " " ++ i.displayName)]
      ((i.openingJournal s.options steps s.cylinder).filterMap Entry.diagnostic?) := by
  rw [openingJournal]
  cases hmode : i.runMode with
  | none =>
    have hopening : i.opening s.options s.cylinder = .error
        { problem := .missingRunModePrecondition, owner := .interlock s.cylinder i } := by
      rw [opening, hmode]
    rw [hopening]
    exact .noRunMode h hmode
  | some mode =>
    obtain ⟨opening, hopening, -⟩ := i.exists_opening (o := s.options) h hmode
    have hsome : i.runMode.isSome := by rw [hmode]; rfl
    simp only [hopening, List.filterMap_append, filterMap_rangeNote, List.nil_append]
    rw [gateReport]
    cases hgate : i.gate with
    | none => exact .complete h hsome (by simp [hgate])
    | some g =>
      cases haddress : g.address? with
      | none =>
        simp only [Gate.instruction?, haddress, Option.map_none]
        exact .unresolved h hsome hgate haddress
      | some address =>
        simp only [Gate.instruction?, haddress, Option.map_some]
        exact .complete h hsome (by simp [hgate, haddress])

end Interlock

namespace Plant

variable {p : Plant} {o : Options} {a b : Nat} {c : Cylinder} {i : Interlock}
  (hc : p.cylinders[a]? = some c)
include hc

theorem accounts_of_mem_interlock (h : c.isAddressable) (hi : c.interlocks[b]? = some i)
    {posting : Posting} (hposting : posting ∈ i.ledger (c.scope p o) p.processSteps a b) :
    p.Accounts o posting := by
  obtain rfl | hposting := List.mem_cons.mp hposting
  · exact .interlock hc hi (Interlock.accounts_openingJournal (s := c.scope p o) h _)
  · obtain ⟨x, hx, rfl⟩ := List.mem_map.mp hposting
    obtain ⟨items, ds, hposting, haccounts⟩ :=
      Condition.exists_accounts (s := c.scope p o) (i := i) (d := x.1) h ⟨a, b, x.2⟩
    rw [hposting]
    exact .condition hc hi (mem_placed.mp hx) haccounts

/-- Out of range, a cylinder silences its interlocks and their conditions. -/
theorem accounts_silence (h : ¬c.isAddressable) (hi : c.interlocks[b]? = some i)
    {posting : Posting} (hposting : posting ∈ i.ledger (c.scope p o) p.processSteps a b) :
    p.Accounts o posting.silence := by
  rw [Posting.silence]
  obtain hplace | ⟨n, d, hd, hplace⟩ :=
    Interlock.mem_map_place_ledger.mp (List.mem_map_of_mem hposting)
  · rw [hplace]
    exact .interlock hc hi (.outOfRange h)
  · rw [hplace]
    exact .condition hc hi hd (.outOfRange h)

theorem accounts_of_mem_cylinder {posting : Posting} (hposting : posting ∈ c.ledger p o a) :
    p.Accounts o posting := by
  by_cases h : c.isAddressable
  · rw [Cylinder.ledger, if_pos h] at hposting
    obtain hposting | hposting := List.mem_append.mp hposting
    · obtain ⟨x, hx, hposting⟩ := List.mem_flatMap.mp hposting
      exact accounts_of_mem_interlock hc h (mem_placed.mp hx) hposting
    · cases List.mem_singleton.mp hposting
      exact .cylinder hc (.block h)
  · rw [Cylinder.ledger, if_neg h] at hposting
    obtain hposting | hposting := List.mem_append.mp hposting
    · obtain ⟨loud, hloud, rfl⟩ := List.mem_map.mp hposting
      obtain ⟨x, hx, hloud⟩ := List.mem_flatMap.mp hloud
      exact accounts_silence hc h (mem_placed.mp hx) hloud
    · cases List.mem_singleton.mp hposting
      exact .cylinder hc (.outOfRange h)

omit hc

/-- **Every record of a plant is accounted for.** The rows and the diagnostics of a plant with
cylinders come from its ledger and from nowhere else. The ledger has exactly one posting for each
record, which gives what the record may give: a condition of an interlock with a run mode, for
instance, gives either a rung or a diagnostic. So the rows of each kind are as many as the records
call for. -/
theorem generate_ledger (p : Plant) (o : Options) (hcylinders : p.cylinders ≠ []) :
    (p.generate o).rows = Item.number ((p.ledger o).flatMap Posting.items) ∧
      (p.generate o).diagnostics = (p.ledger o).flatMap Posting.diagnostics ∧
      ((p.ledger o).map Posting.place).Nodup ∧
      (∀ place, p.Has place → place ∈ (p.ledger o).map Posting.place) ∧
      (∀ posting ∈ p.ledger o, p.Accounts o posting) ∧
      p.Tallies o (p.generate o).rows := by
  refine ⟨?_, ?_, p.nodup_map_place_ledger o, fun _ => p.mem_map_place_ledger_of_has o, ?_,
    p.tallies_generate o⟩
  · simp only [rows_generate, ledger, List.flatMap_assoc, Cylinder.flatMap_items_ledger,
      flatMap_fst_zipIdx]
  · simp only [generate_of_ne_nil o hcylinders, Generation.diagnostics, ledger, List.flatMap_assoc,
      Cylinder.flatMap_diagnostics_ledger, List.filterMap_flatMap]
    exact (flatMap_fst_zipIdx (fun c : Cylinder => (c.journal p o).filterMap Entry.diagnostic?)
      p.cylinders).symm
  · intro posting hposting
    obtain ⟨x, hx, hposting⟩ := List.mem_flatMap.mp hposting
    exact accounts_of_mem_cylinder (List.mem_zipIdx_iff_getElem?.mp hx) hposting

end Plant

/-- A press with a defect at every level, and one that is out of range. -/
def brokenLine : Plant where
  cylinders := [{ press with interlocks :=
      [{ pressLock with
          gate := some ⟨.io, some " ", some "M5", .on⟩
          conditions := [pressOverride,
            { pressOverride with device := none, kind := .unrecognized 9 }] },
        { pressLock with runMode := none }] },
    { press with base := 4294967290 }]
  sensors := []
  processSteps := []

/-- The second condition of the first interlock has two defects and one diagnostic. -/
theorem generate_brokenLine : brokenLine.cylinders ≠ [] ∧
    (brokenLine.ledger .default).map Posting.place =
      [.interlock 0 0, .condition ⟨0, 0, 0⟩, .condition ⟨0, 0, 1⟩, .interlock 0 1,
        .condition ⟨0, 1, 0⟩, .cylinder 0, .interlock 1 0, .condition ⟨1, 0, 0⟩, .cylinder 1] ∧
    (brokenLine.generate .default).diagnostics.map (fun d => (d.code, d.owner.kind)) =
      [("G0202", .interlock), ("G0101", .condition), ("G0201", .interlock),
        ("G0002", .cylinder)] ∧
    brokenLine.Tallies .default (brokenLine.generate .default).rows ∧
    brokenLine.addressable.length = 1 ∧ brokenLine.interlocks.length = 2 ∧
    brokenLine.lowered .default = [pressOverride] := by
  have hcylinders : brokenLine.cylinders ≠ [] := nofun
  obtain ⟨-, hdiagnostics, -, -, -, htallies⟩ := brokenLine.generate_ledger .default hcylinders
  refine ⟨hcylinders, ?_, ?_, htallies, rfl, ?_, ?_⟩
  · cbv
  · rw [hdiagnostics]
    cbv
  · cbv
  · cbv

end InterlockLadder
