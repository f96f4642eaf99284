import Mathlib.Data.List.Nodup
import Scratchpad.Proofs.Session.Shared

/-!
The current run of a shared session is that of its newest submission. An older submission that
returns forgets its run only if this is still the current one, so it never makes the session forget
a newer run (`Shared.current_newest`).
-/

set_option autoImplicit false
set_option relaxedAutoImplicit false

namespace Scratchpad.Session

/-- Whether a submission has still to tidy up. -/
def Stage.isOpen : Stage → Bool
  | .returned _ => false
  | _ => true

private theorem Stage.isOpen_of_answer? {e : Engine} {stage : Stage} {a : Answer}
    (h : stage.answer? e = some a) : stage.isOpen = true := by
  cases stage with
  | returned b => cases h
  | _ => rfl

private theorem Stage.isOpen_ofSubmit (result : Except SubmitFault Nat) :
    (Stage.ofSubmit result).isOpen = true := by
  cases result <;> rfl

namespace Shared

def Distinct (s : Shared) : Event → Prop
  | .replace r => r.id ∉ s.ids
  | _ => True

/-- Notes whether someone has taken the current run since the newest submission. -/
def noteTaken (_ : Shared) (event : Event) (taken : Bool) : Bool :=
  match event with
  | .replace _ => false
  | .take => true
  | _ => taken

/-- The run of the newest submission, if that has not returned. -/
def newest? (s : Shared) : Option RunId :=
  s.submissions.getLast?.bind fun sub => if sub.stage.isOpen then some sub.request.id else none

private theorem exists_of_newest? {s : Shared} {id : RunId} (h : s.newest? = some id) :
    ∃ sub, s.submissions.getLast? = some sub ∧ sub.request.id = id := by
  obtain ⟨sub, hsub, hid⟩ := Option.bind_eq_some_iff.1 h
  split_ifs at hid
  exact ⟨sub, hsub, Option.some.inj hid⟩

/-- The identifiers differ, and the newest run is the current one until it is taken. -/
structure Current (s : Shared) (taken : Bool) : Prop where
  nodup : s.ids.Nodup
  current_eq : s.session.current = if taken then none else s.newest?

section Put

variable {s : Shared} {k : Nat} {sub : Submission}

private theorem getLast?_put (hk : s.submissions[k]? = some sub) (stage : Stage) :
    s.submissions.getLast? = some sub ∧
        (s.put k sub stage).submissions.getLast? = some { sub with stage } ∨
      k + 1 < s.submissions.length ∧
        (s.put k sub stage).submissions.getLast? = s.submissions.getLast? := by
  have hlt : k < s.submissions.length := (List.getElem?_eq_some_iff.1 hk).1
  simp only [put, List.getLast?_eq_getElem?, List.length_set]
  by_cases hlast : k = s.submissions.length - 1
  · left
    rw [← hlast, List.getElem?_set_self hlt]
    exact ⟨hk, rfl⟩
  · right
    rw [List.getElem?_set_ne hlast]
    exact ⟨by omega, rfl⟩

private theorem newest?_put {stage : Stage} (hk : s.submissions[k]? = some sub)
    (hsub : sub.stage.isOpen = true) (hstage : stage.isOpen = true) :
    (s.put k sub stage).newest? = s.newest? := by
  rcases getLast?_put hk stage with ⟨hold, hnew⟩ | ⟨-, hsame⟩
  · simp [newest?, hold, hnew, hsub, hstage]
  · rw [newest?, hsame, newest?]

private theorem ne_of_getLast? (hnodup : s.ids.Nodup) (hk : s.submissions[k]? = some sub)
    (hlt : k + 1 < s.submissions.length) {last : Submission}
    (hlast : s.submissions.getLast? = some last) : last.request.id ≠ sub.request.id := by
  intro hid
  rw [List.getLast?_eq_getElem?] at hlast
  have hlength : s.ids.length = s.submissions.length := by rw [ids, List.length_map]
  have hsame : s.ids[s.submissions.length - 1]? = s.ids[k]? := by
    rw [ids, List.getElem?_map, List.getElem?_map, hlast, hk, Option.map_some, Option.map_some, hid]
  have heq := (List.getElem?_inj (by omega) hnodup).1 hsame
  omega

private theorem ne_newest? (hnodup : s.ids.Nodup) (hk : s.submissions[k]? = some sub)
    (hlt : k + 1 < s.submissions.length) : s.newest? ≠ some sub.request.id := by
  intro hnewest
  obtain ⟨last, hlast, hid⟩ := exists_of_newest? hnewest
  exact ne_of_getLast? hnodup hk hlt hlast hid

end Put

theorem Current.put {s s' : Shared} {taken : Bool} (h : s.Current taken) {k : Nat} {sub : Submission}
    {stage : Stage} (hk : s.submissions[k]? = some sub) (hsub : sub.stage.isOpen = true)
    (hstage : stage.isOpen = true) (hsession : s'.session = s.session)
    (hs' : s'.submissions = (s.put k sub stage).submissions) : s'.Current taken := by
  have hids : s'.ids = s.ids := by rw [ids, hs', ← ids, ids_put hk]
  have hnewest : s'.newest? = s.newest? := by rw [newest?, hs', ← newest?, newest?_put hk hsub hstage]
  refine ⟨hids ▸ h.nodup, ?_⟩
  rw [hsession, hnewest]
  exact h.current_eq

theorem Current.finish {s : Shared} {taken : Bool} (h : s.Current taken) {k : Nat}
    {sub : Submission} {a : Answer} (hk : s.submissions[k]? = some sub)
    (hopen : sub.stage.isOpen = true) :
    Current { s.put k sub (.returned a) with session := s.session.clear sub.request.id } taken := by
  refine ⟨(ids_put hk).symm ▸ h.nodup, ?_⟩
  change (s.session.clear sub.request.id).current =
    if taken then none else (s.put k sub (.returned a)).newest?
  have hcurrent := h.current_eq
  rcases getLast?_put hk (.returned a) with ⟨hold, hnew⟩ | ⟨hlt, hsame⟩
  · -- It is the newest, so its run was the current one unless that was taken.
    have hnone : (s.put k sub (.returned a)).newest? = none := by
      simp [newest?, hnew, Stage.isOpen]
    have hnewest : s.newest? = some sub.request.id := by simp [newest?, hold, hopen]
    rw [hnewest] at hcurrent
    rw [hnone, ite_self, clear]
    cases taken <;> simp_all
  · have hne : s.session.current ≠ some sub.request.id := by
      intro heq
      rw [hcurrent] at heq
      split_ifs at heq
      exact ne_newest? h.nodup hk hlt heq
    have hnewest : (s.put k sub (.returned a)).newest? = s.newest? := by
      rw [newest?, hsame, newest?]
    rw [hnewest, clear, if_neg hne, hcurrent]

theorem Current.step {s s' : Shared} {event : Event} {taken : Bool} (h : s.Current taken)
    (hdistinct : s.Distinct event) (hstep : Steps s event s') :
    s'.Current (s.noteTaken event taken) := by
  cases hstep with
  | replace r =>
    refine ⟨?_, ?_⟩
    · rw [ids, List.map_append, ← ids]
      exact List.concat_eq_append ▸ h.nodup.concat hdistinct
    · simp [newest?, noteTaken, Stage.isOpen]
  | @supersede k sub previous hk hstage =>
    exact h.put hk (by rw [hstage]; rfl) rfl rfl rfl
  | @enter k sub hk hstage =>
    exact h.put hk (by rw [hstage]; rfl) (Stage.isOpen_ofSubmit _) rfl rfl
  | @finish k sub a hk ha => exact h.finish hk (Stage.isOpen_of_answer? ha)
  | take => exact ⟨h.nodup, rfl⟩
  | dismiss hk => exact ⟨h.nodup, h.current_eq⟩
  | engine he => exact ⟨h.nodup, h.current_eq⟩

private theorem current_of_observed {e : Engine} {s : Shared} {taken : Bool}
    (h : Observed Distinct noteTaken { engine := e } false s taken) : s.Current taken :=
  h.invariant (P := Current) ⟨List.nodup_nil, rfl⟩ Current.step

/-- The current run is always that of the newest submission, if there is a current run. It is the
current run exactly until the submission itself has returned or someone has taken it, whatever older
submissions do. -/
theorem current_newest {e : Engine} {s : Shared} {taken : Bool}
    (h : Observed Distinct noteTaken { engine := e } false s taken) :
    (s.session.current = none ∨
        ∃ sub, s.submissions.getLast? = some sub ∧ s.session.current = some sub.request.id) ∧
      ∀ sub, s.submissions.getLast? = some sub →
        (s.session.current = some sub.request.id ↔ sub.stage.isOpen = true ∧ taken = false) := by
  have hcurrent := (current_of_observed h).current_eq
  constructor
  · cases hid : s.session.current with
    | none => exact Or.inl rfl
    | some id =>
      rw [hid] at hcurrent
      split_ifs at hcurrent
      obtain ⟨sub, hsub, rfl⟩ := exists_of_newest? hcurrent.symm
      exact Or.inr ⟨sub, hsub, rfl⟩
  · intro sub hsub
    rw [hcurrent, newest?, hsub]
    cases taken <;> cases hopen : sub.stage.isOpen <;> simp [hopen]

/-- The first submission is turned down, because a run with its identifier is in flight already, and
returns after the second has taken its place: the second stays the current one. -/
theorem current_newest_of_stale_return :
    ∃ s, Observed Distinct noteTaken { engine := Engine.bare } false s false ∧
      s.submissions.map (·.stage.isOpen) = [false, true] ∧
      s.session.current = some pong.id := by
  have hstart : Observed Distinct noteTaken { engine := Engine.bare } false _ _ := .refl
  have hfirst := ((hstart.step (.engine (.submit Engine.ping)) trivial rfl).step
    (.replace Engine.ping) List.not_mem_nil rfl).step (.supersede 0) trivial rfl
  have hsecond := (hfirst.step (.enter 0) trivial rfl).step (.replace pong)
    (show pong.id ∉ [Engine.ping.id] by decide) rfl
  have hreturn := hsecond.step (.finish 0) trivial rfl
  exact ⟨_, hreturn, rfl, ((current_newest hreturn).2 _ rfl).2 ⟨rfl, rfl⟩⟩

end Shared

end Scratchpad.Session
