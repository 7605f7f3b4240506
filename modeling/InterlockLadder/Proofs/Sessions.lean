import InterlockLadder.Proofs.SavedDocuments
import InterlockLadder.Session

/-! What becomes of a session. A step that fails changes nothing, so the steps that fail can be left
out of a run (`Session.run_effective`). No step takes back a diagnostic, and none brings in a plant
that could not be saved (`Session.keeps_run`). -/

namespace InterlockLadder.Session

variable {s s' s'' : Session}

/-! ## Steps that fail -/

def Answer.isFailure : Answer → Bool
  | malformed _ | noSuchIndex => true
  | _ => false

/-- A text that cannot be loaded is the only reason why loading fails. -/
theorem take_of_isFailure {α : Type} {loaded : Except Malformed α} {f : α → Session × Answer}
    (hf : ∀ a, (f a).2.isFailure = false) (h : (s.take loaded f).2.isFailure) :
    (s.take loaded f).1 = s := by
  cases loaded with
  | ok a =>
    change (f a).2.isFailure at h
    rw [hf a] at h
    cases h
  | error cause => rfl

theorem step_of_isFailure {step : Step} (h : (s.step step).2.isFailure) :
    (s.step step).1 = s := by
  cases step with
  | loadPlant text | loadOptions text | loadRows text =>
    apply take_of_isFailure _ h
    intro a
    rfl
  | generateCylinder index =>
    rw [Session.step] at h ⊢
    split at h
    · cases h
    · rfl
  | removeRow index =>
    rw [Session.step] at h ⊢
    split at h
    · cases h
    · rfl
  | setMark mark | generate | clear => cases h
  | validate | listing | reports => rfl

/-- The steps of a run that do not fail. -/
def effective (s : Session) : List Step → List Step
  | [] => []
  | first :: rest =>
    if (s.step first).2.isFailure then (s.step first).1.effective rest
    else first :: (s.step first).1.effective rest

theorem run_cons (s : Session) (first : Step) (rest : List Step) :
    s.run (first :: rest) =
      (((s.step first).1.run rest).1, (s.step first).2 :: ((s.step first).1.run rest).2) :=
  rfl

/-- **Steps that fail can be left out of a run**: what is left comes to the same session and gives
the other answers. -/
theorem run_effective (s : Session) (steps : List Step) :
    s.run (s.effective steps) =
      ((s.run steps).1, (s.run steps).2.filter fun answer => !answer.isFailure) := by
  induction steps generalizing s with
  | nil => rfl
  | cons first rest ih =>
    rw [effective, run_cons]
    cases hfailure : (s.step first).2.isFailure with
    | true =>
      rw [if_pos rfl, step_of_isFailure hfailure, ih, List.filter_cons_of_neg (by simp [hfailure])]
    | false =>
      rw [if_neg Bool.false_ne_true, run_cons, ih, List.filter_cons_of_pos (by simp [hfailure])]

/-! ## What every step keeps -/

/-- The diagnostics so far stay in front, and kinds stay canonical. -/
structure Keeps (s s' : Session) : Prop where
  reported : s.reported <+: s'.reported
  plant : s.plant.HasCanonicalKinds → s'.plant.HasCanonicalKinds

theorem Keeps.refl (s : Session) : Keeps s s :=
  ⟨List.prefix_rfl, id⟩

theorem Keeps.trans (h : Keeps s s') (h' : Keeps s' s'') : Keeps s s'' :=
  ⟨h.reported.trans h'.reported, fun hs => h'.plant (h.plant hs)⟩

theorem keeps_add (s : Session) (g : Generation) : Keeps s (s.add g).1 :=
  ⟨List.prefix_append _ _, id⟩

theorem keeps_take {α : Type} {loaded : Except Malformed α} {f : α → Session × Answer}
    (h : ∀ a, loaded = .ok a → Keeps s (f a).1) : Keeps s (s.take loaded f).1 := by
  cases loaded with
  | ok a => exact h a rfl
  | error cause => exact .refl s

theorem keeps_step (s : Session) (step : Step) : Keeps s (s.step step).1 := by
  cases step with
  | loadPlant text =>
    apply keeps_take
    intro plant hplant
    refine ⟨List.prefix_rfl, ?_⟩
    intro _
    exact of_load_eq_ok Plant.hasCanonicalKinds_ofDatum hplant
  | loadOptions text =>
    apply keeps_take
    intro options _
    exact ⟨List.prefix_rfl, id⟩
  | loadRows text =>
    apply keeps_take
    intro rows _
    exact keeps_add s _
  | generate => exact keeps_add s _
  | generateCylinder index =>
    rw [Session.step]
    split
    · exact keeps_add s _
    · exact .refl s
  | removeRow index =>
    rw [Session.step]
    split
    · exact ⟨List.prefix_rfl, id⟩
    · exact .refl s
  | setMark mark | clear => exact ⟨List.prefix_rfl, id⟩
  | validate | listing | reports => exact .refl s

theorem keeps_run (s : Session) (steps : List Step) : Keeps s (s.run steps).1 := by
  induction steps generalizing s with
  | nil => exact .refl s
  | cons first rest ih => exact (keeps_step s first).trans (ih (s.step first).1)

/-- **The plant of a session can be saved**, whatever steps have led there: its document loads as
this plant. -/
theorem reload_run (steps : List Step) (form : Json.Form) :
    Plant.ofJson ((({} : Session).run steps).1.plant.toJson form) =
      .ok (({} : Session).run steps).1.plant := by
  apply Plant.reloads.load_save
  apply (keeps_run {} steps).plant
  intro c hc
  cases hc

end InterlockLadder.Session
