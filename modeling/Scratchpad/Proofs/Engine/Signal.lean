import Scratchpad.Proofs.Engine.Step
import Scratchpad.Proofs.Registry.Basic

/-!
What a signal does to a run. A run looks at its signal before it writes its script, while its
interpreter runs, and when it settles its outcome. It comes to be cancelled exactly if the signal had
been given when it looked last (`Engine.answer_cancelled_iff_heard`); a signal that comes later, when
the script cannot be written, the interpreter cannot be started, or the outcome is settled, is lost.
-/

set_option autoImplicit false
set_option relaxedAutoImplicit false

namespace Scratchpad

private theorem deliver_eq_cancelled_iff (l : Language) (probes : List Probe) (remains : Remains)
    (asked : Bool) : (deliver l probes remains asked).1 = .cancelled ↔ asked = true := by
  cases asked <;> simp [deliver]

namespace Engine

theorem Moves.signalled {e : Engine} {r : Run} {m : Move} {p : Phase} {files : Files}
    {registry : Registry} (h : Moves e r m p files registry) :
    registry.signalled = e.registry.signalled := by
  cases h <;> rfl

theorem Steps.isSignalled {e e' : Engine} {event : Event} (h : Steps e event e')
    {g : Registration} (hg : e.registry.isSignalled g = true) :
    e'.registry.isSignalled g = true := by
  rw [Registry.isSignalled_iff] at hg ⊢
  cases h with
  | accept hq => rwa [Registry.signalled_register]
  | refuse hq => rwa [Registry.signalled_register]
  | advance hr hm =>
    rw [after, hm.signalled]
    exact hg
  | cancel id => exact (Registry.signalled_suffix_cancel _ _).subset hg
  | cancelAll => exact (Registry.signalled_suffix_cancelAll _).subset hg

def looks : Move → Bool
  | .prepare _ => true
  | .stop => true
  | .decide => true
  | _ => false

/-- Notes whether run `n` had been asked to stop when it last looked. -/
def noteHeard (n : Nat) (e : Engine) : Event → Bool → Bool
  | .advance k m, heard =>
    if k = n ∧ looks m = true then (e.runs[n]?).any fun r => r.isSignalled e.registry else heard
  | _, heard => heard

/-- How far a run has come agrees with what it has heard. -/
def Agrees (heard : Bool) : Phase → Prop
  | .decided outcome _ => outcome = .cancelled ↔ heard = true
  | .leaving answer => ∃ o, answer = .ok o ∧ (o = .cancelled ↔ heard = true)
  | .over answer => ∃ o, answer = .ok o ∧ (o = .cancelled ↔ heard = true)
  | _ => heard = false

/-- What a run has heard, it has been told; and what it does agrees with it. -/
structure Heeds (n : Nat) (e : Engine) (heard : Bool) : Prop where
  told : heard = true → ∃ r, e.runs[n]? = some r ∧ r.isSignalled e.registry = true
  agrees : ∀ r, e.runs[n]? = some r → Agrees heard r.phase

private theorem preparedPhase_agrees (e : Engine) (r : Run) (interpreter : Text) :
    Agrees (r.isSignalled e.registry) (e.preparedPhase r interpreter) := by
  obtain ⟨s, hs⟩ := e.scriptOf_eq_ok r.request
  simp only [preparedPhase, hs]
  cases hsignal : r.isSignalled e.registry with
  | true => exact ⟨.cancelled, rfl, by simp⟩
  | false => rfl

private theorem Moves.agrees {e : Engine} {r : Run} {m : Move} {p : Phase} {files : Files}
    {registry : Registry} (h : Moves e r m p files registry) {heard : Bool}
    (ha : Agrees heard r.phase) :
    Agrees (if looks m = true then r.isSignalled e.registry else heard) p := by
  cases h with
  | prepare interpreter h => exact preparedPhase_agrees e r interpreter
  | write h hfault =>
    rw [h] at ha
    exact ha
  | writeFault f h =>
    rw [h] at ha
    simp only [Agrees] at ha
    simp [Agrees, looks, ha]
  | breakOff part f h hfault =>
    rw [h] at ha
    simp only [Agrees] at ha
    simp [Agrees, looks, ha]
  | start h =>
    rw [h] at ha
    exact ha
  | startFault f h =>
    rw [h] at ha
    simp only [Agrees] at ha
    simp [Agrees, looks, ha]
  | close remains h =>
    rw [h] at ha
    exact ha
  | stop h hsignal => simp [Agrees, looks, hsignal]
  | decide h => exact deliver_eq_cancelled_iff ..
  | clean h =>
    rw [h] at ha
    exact ⟨_, rfl, ha⟩
  | leave h =>
    rw [h] at ha
    exact ha

private theorem noteHeard_advance {n : Nat} {e : Engine} {r : Run} (hr : e.runs[n]? = some r)
    (m : Move) (heard : Bool) :
    noteHeard n e (.advance n m) heard =
      if looks m = true then r.isSignalled e.registry else heard := by
  simp [noteHeard, hr]

private theorem noteHeard_of_ne {n : Nat} {e : Engine} {event : Event}
    (h : ∀ m, event ≠ .advance n m) (heard : Bool) : noteHeard n e event heard = heard := by
  cases event with
  | advance k m =>
    have hk : k ≠ n := fun hk => h m (by rw [hk])
    simp [noteHeard, hk]
  | submit q => rfl
  | cancel id => rfl
  | cancelAll => rfl

private theorem Steps.told {e e' : Engine} {event : Event} (h : Steps e event e') {n : Nat}
    (ht : ∃ r, e.runs[n]? = some r ∧ r.isSignalled e.registry = true) :
    ∃ r, e'.runs[n]? = some r ∧ r.isSignalled e'.registry = true := by
  obtain ⟨r, hr, hs⟩ := ht
  obtain ⟨r', hr', -, hreg⟩ := h.run_persists hr
  refine ⟨r', hr', ?_⟩
  rw [Run.isSignalled, hreg]
  exact h.isSignalled hs

theorem Heeds.step {n : Nat} {e e' : Engine} {event : Event} {heard : Bool}
    (hh : Heeds n e heard) (h : Steps e event e') : Heeds n e' (noteHeard n e event heard) where
  told hnote := by
    apply h.told
    by_cases hadvance : ∃ m, event = .advance n m
    · obtain ⟨m, rfl⟩ := hadvance
      cases hr : e.runs[n]? with
      | none => cases h with
        | advance hr' hm => rw [hr] at hr'; cases hr'
      | some r =>
        rw [noteHeard_advance hr] at hnote
        split at hnote
        · exact ⟨r, rfl, hnote⟩
        · exact hr ▸ hh.told hnote
    · rw [noteHeard_of_ne fun m hm => hadvance ⟨m, hm⟩] at hnote
      exact hh.told hnote
  agrees r' hr' := by
    rcases h.run_cases hr' with ⟨hnone, hphase, q, rfl, -⟩ | ⟨hr, hne⟩ |
      ⟨r, m, p, files, registry, rfl, hr, hm, -, rfl⟩
    · -- a new run has heard nothing
      have hheard : heard = false := by
        by_contra hne
        obtain ⟨r, hr, -⟩ := hh.told (by simpa using hne)
        rw [hnone] at hr
        cases hr
      rw [hphase]
      exact hheard
    · rw [noteHeard_of_ne hne]
      exact hh.agrees r' hr
    · rw [noteHeard_advance hr]
      exact hm.agrees (hh.agrees r hr)

/-- A run comes to be cancelled exactly if it had been asked to stop when it last looked. So it is
cancelled exactly if it has been asked to stop at all, unless it was asked after its last look. -/
theorem answer_cancelled_iff_heard {settings : Settings} {files : Files} {n : Nat} {e : Engine}
    {heard : Bool} (h : Observed (noteHeard n) { settings, files } false e heard) {r : Run}
    {answer : Answer} (hr : e.runs[n]? = some r) (hover : r.phase = .over answer) :
    ∃ o, answer = .ok o ∧ (o = .cancelled ↔ heard = true) ∧
      (o = .cancelled → r.isSignalled e.registry = true) ∧
      ((o = .cancelled ↔ r.isSignalled e.registry = true) ↔
        (r.isSignalled e.registry = true → heard = true)) := by
  have hheeds : Heeds n e heard :=
    h.invariant ⟨by simp, by simp⟩ fun hh hstep => hh.step hstep
  have hagrees := hheeds.agrees r hr
  rw [hover] at hagrees
  obtain ⟨o, rfl, ho⟩ := hagrees
  have htold : heard = true → r.isSignalled e.registry = true := by
    intro hheard
    obtain ⟨r', hr', hs⟩ := hheeds.told hheard
    obtain rfl : r' = r := Option.some.inj (hr'.symm.trans hr)
    exact hs
  refine ⟨o, rfl, ho, fun hc => htold (ho.1 hc), ?_⟩
  rw [ho]
  exact ⟨fun hiff => hiff.2, fun himp => ⟨htold, himp⟩⟩

/-- After its last look the run is asked to stop, its script cannot be written, and it finishes. -/
theorem answer_cancelled_iff_heard_of_late_signal :
    ∃ e heard r o, Observed (noteHeard 0) bare false e heard ∧ e.runs[0]? = some r ∧
      r.phase = .over (.ok o) ∧ (o = .cancelled ↔ heard = true) ∧
      ((o = .cancelled ↔ r.isSignalled e.registry = true) ↔
        (r.isSignalled e.registry = true → heard = true)) := by
  obtain ⟨s, hs⟩ := exists_run?_prepared (e := bare) (q := ping) rfl rfl []
  obtain ⟨x, hx⟩ := (Observed.refl : Observed (noteHeard 0) bare false bare false).run? hs
  have hrest := hx.run? (show run? _ [.cancel ping.id, .advance 0 (.write (some .missing)),
    .advance 0 .clean, .advance 0 .leave] = some _ from rfl)
  obtain ⟨heard, hheard⟩ := hrest
  obtain ⟨o, ho, hiff, -, hexact⟩ := answer_cancelled_iff_heard hheard rfl rfl
  exact ⟨_, heard, _, o, hheard, rfl, by rw [ho], hiff, hexact⟩

/-- A run that was asked to stop can finish all the same. -/
theorem exists_finished_of_cancel :
    ∃ e₁ e₂ r report, bare.run? [.submit ping, .advance 0 (.prepare [])] = some e₁ ∧
      (e₁.cancel ping.id).2 = true ∧
      (e₁.cancel ping.id).1.run?
        [.advance 0 (.write (some .missing)), .advance 0 .clean, .advance 0 .leave] = some e₂ ∧
      e₂.runs[0]? = some r ∧ r.isSignalled e₂.registry = true ∧
      r.phase = .over (.ok (.finished report)) := by
  obtain ⟨s, hs⟩ := exists_run?_prepared (e := bare) (q := ping) rfl rfl []
  exact ⟨_, _, _, _, hs, rfl, rfl, rfl, rfl, rfl⟩

end Engine

end Scratchpad
