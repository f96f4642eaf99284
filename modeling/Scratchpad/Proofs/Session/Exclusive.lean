import Mathlib.Data.List.Nodup
import Scratchpad.Proofs.Session.Shared

/-!
Whether a session that is shared has one run at a time. A run that has been superseded or taken is
cancelled when it is dismissed, but if it is still to be registered then, the cancel misses it, and
it goes on beside the current run. In quiet moments the runs in flight are the current one and those
that were missed (`Shared.exclusive_iff_of_quiet`).
-/

set_option autoImplicit false
set_option relaxedAutoImplicit false

namespace Scratchpad.Session

private theorem dismiss_runs (e : Engine) (current : Option RunId) :
    (dismiss e current).1.runs = e.runs := by
  cases current <;> rfl

private theorem isRunning_dismiss {e : Engine} {current : Option RunId} {id : RunId} :
    (dismiss e current).1.isRunning id = true ↔ e.isRunning id = true ∧ current ≠ some id := by
  cases current with
  | none => simp [dismiss]
  | some i =>
    rw [dismiss, Engine.isRunning, Engine.isRunning, Ne, Option.some.injEq, eq_comm (a := i)]
    exact Registry.tracks_cancel

private theorem entriesHeld_dismiss {e : Engine} (he : e.EntriesHeld) (current : Option RunId) :
    (dismiss e current).1.EntriesHeld := by
  cases current with
  | none => exact he
  | some id => exact (Engine.Steps.cancel id).entriesHeld he

private theorem current_clear {session : Session} {i id : RunId} :
    (session.clear i).current = some id ↔ session.current = some id ∧ id ≠ i := by
  unfold clear
  split_ifs with h
  · simp [h, eq_comm]
  · exact ⟨fun hid => ⟨hid, fun heq => h (heq ▸ hid)⟩, And.left⟩

private theorem Stage.previous?_ofSubmit (result : Except SubmitFault Nat) :
    (Stage.ofSubmit result).previous? = none := by
  cases result <;> rfl

namespace Shared

/-- Every submission has an identifier of its own, which is used for nothing else. -/
def Fresh (s : Shared) : Event → Prop
  | .replace r => r.id ∉ s.ids ∧ ∀ run ∈ s.engine.runs, run.request.id ≠ r.id
  | .engine (.submit r) => r.id ∉ s.ids
  | _ => True

def Waits (s : Shared) (id : RunId) : Prop :=
  ∃ sub ∈ s.submissions, sub.request.id = id ∧ sub.stage.isWaiting = true

instance (s : Shared) (id : RunId) : Decidable (s.Waits id) :=
  inferInstanceAs (Decidable (∃ sub ∈ s.submissions, _ ∧ _))

def IsDue (s : Shared) (id : RunId) : Prop :=
  (∃ sub ∈ s.submissions, sub.stage.previous? = some id) ∨ some id ∈ s.taken

def dismissed? (s : Shared) : Event → Option RunId
  | .supersede k => s.submissions[k]? >>= fun sub => sub.stage.previous?
  | .dismiss k => s.taken[k]?.join
  | _ => none

def miss (s : Shared) (current : Option RunId) (missed : List RunId) : List RunId :=
  match current with
  | some id => if s.Waits id then id :: missed else missed
  | none => missed

def noteMissed (s : Shared) (event : Event) (missed : List RunId) : List RunId :=
  s.miss (s.dismissed? event) missed

private theorem mem_miss {s : Shared} {current : Option RunId} {missed : List RunId} {id : RunId} :
    id ∈ s.miss current missed ↔ id ∈ missed ∨ current = some id ∧ s.Waits id := by
  unfold miss
  split
  · next i =>
    split_ifs with hwaits
    · rw [List.mem_cons, Option.some.injEq, or_comm]
      exact or_congr_right ⟨fun h => ⟨h.symm, h ▸ hwaits⟩, fun h => h.1.symm⟩
    · refine ⟨Or.inl, fun h => h.resolve_right ?_⟩
      rintro ⟨hi, hid⟩
      exact hwaits (Option.some.inj hi ▸ hid)
  · simp

/-- How the submissions stand to the runs of the engine. -/
structure Linked (s : Shared) : Prop where
  nodup : s.ids.Nodup
  held : s.engine.EntriesHeld
  entered : ∀ sub ∈ s.submissions, ∀ n r, s.engine.runs[n]? = some r →
    r.request.id = sub.request.id → r.answer? = none → sub.stage = .entered n

private theorem Linked.isRunning_eq_false {s : Shared} (h : s.Linked) {sub : Submission}
    {a : Answer} (hsub : sub ∈ s.submissions) (ha : sub.stage.answer? s.engine = some a) :
    s.engine.isRunning sub.request.id = false := by
  rw [← Bool.not_eq_true, Engine.isRunning_iff]
  rintro ⟨g, hg, hid⟩
  obtain ⟨n, r, hr, -, hrid, hanswer⟩ := h.held g hg
  rw [h.entered sub hsub n r hr (hrid.trans hid) hanswer, Stage.answer?_entered hr, hanswer] at ha
  cases ha

private theorem Linked.answer?_ne_none {s : Shared} (h : s.Linked) {sub : Submission}
    (hsub : sub ∈ s.submissions) (hstage : ∀ n, sub.stage ≠ .entered n) {n : Nat} {r : Run}
    (hr : s.engine.runs[n]? = some r) (hid : r.request.id = sub.request.id) :
    r.answer? ≠ none :=
  fun hanswer => hstage n (h.entered sub hsub n r hr hid hanswer)

theorem Linked.put {s s' : Shared} (h : s.Linked) {k : Nat} {sub : Submission} {stage : Stage}
    (hk : s.submissions[k]? = some sub) (hs' : s'.submissions = (s.put k sub stage).submissions)
    (hheld : s'.engine.EntriesHeld)
    (hold : ∀ (n : Nat) (r : Run), s'.engine.runs[n]? = some r →
      s.engine.runs[n]? = some r ∨ r.request.id = sub.request.id)
    (hsub : ∀ (n : Nat) (r : Run), s'.engine.runs[n]? = some r → r.request.id = sub.request.id →
      r.answer? = none → stage = .entered n) : s'.Linked := by
  refine ⟨?_, hheld, fun x hx n run hrun hid hanswer => ?_⟩
  · rw [ids, hs', ← ids, ids_put hk]
    exact h.nodup
  · rw [hs', mem_put h.nodup hk] at hx
    rcases hx with rfl | ⟨hx, hne⟩
    · exact hsub n run hrun hid hanswer
    · have hrun' := (hold n run hrun).resolve_right fun hsame => hne (hid.symm.trans hsame)
      exact h.entered x hx n run hrun' hid hanswer

theorem Linked.step {s s' : Shared} {event : Event} (h : s.Linked) (hfresh : s.Fresh event)
    (hstep : Steps s event s') : s'.Linked := by
  cases hstep with
  | replace r =>
    refine ⟨?_, h.held, fun sub hsub n run hrun hid hanswer => ?_⟩
    · rw [ids, List.map_append, ← ids]
      exact List.concat_eq_append ▸ h.nodup.concat hfresh.1
    · rcases List.mem_append.1 hsub with hsub | hsub
      · exact h.entered sub hsub n run hrun hid hanswer
      · rw [List.mem_singleton.1 hsub] at hid
        exact absurd hid (hfresh.2 run (List.mem_of_getElem? hrun))
  | @supersede k sub previous hk hstage =>
    have hruns : (Session.dismiss s.engine previous).1.runs = s.engine.runs := dismiss_runs ..
    refine h.put hk rfl (entriesHeld_dismiss h.held previous) (fun n r hr => Or.inl (hruns ▸ hr))
      fun n r hr hid hanswer => ?_
    exact absurd hanswer (h.answer?_ne_none (List.mem_of_getElem? hk) (by simp [hstage])
      (hruns ▸ hr) hid)
  | @enter k sub hk hstage =>
    have hnone := fun n r => h.answer?_ne_none (n := n) (r := r) (List.mem_of_getElem? hk)
      (by simp [hstage])
    have hsteps := Engine.step?_cases
      (show s.engine.step? (.submit sub.request) = some (s.engine.submit sub.request).1 from rfl)
    -- A run of the engine is an old one, or it is the new run of this submission.
    have hruns : ∀ (n : Nat) (r : Run), (s.engine.submit sub.request).1.runs[n]? = some r →
        s.engine.runs[n]? = some r ∨ r.request.id = sub.request.id ∧
          Stage.ofSubmit (s.engine.submit sub.request).2 = .entered n := by
      intro n r hr
      rcases s.engine.submit_runs_cases sub.request with ⟨g, hresult, hruns⟩ | ⟨f, -, hruns⟩
      · rw [hruns] at hr
        rcases Nat.lt_or_ge n s.engine.runs.length with hn | hn
        · rw [List.getElem?_append_left hn] at hr
          exact Or.inl hr
        · obtain ⟨hlt, hnew⟩ := List.getElem?_eq_some_iff.1 hr
          rw [List.length_append, List.length_singleton] at hlt
          obtain rfl : n = s.engine.runs.length := by omega
          rw [List.getElem_concat_length rfl] at hnew
          exact Or.inr ⟨hnew ▸ rfl, by rw [hresult, Stage.ofSubmit]⟩
      · exact Or.inl (hruns ▸ hr)
    refine h.put hk rfl (hsteps.entriesHeld h.held) (fun n r hr => (hruns n r hr).imp_right And.left)
      fun n r hr hid hanswer => ?_
    rcases hruns n r hr with hr | ⟨-, hstage'⟩
    · exact absurd hanswer (hnone n r hr hid)
    · exact hstage'
  | @finish k sub a hk ha =>
    refine h.put hk rfl h.held (fun n r hr => Or.inl hr) fun n r hr hid hanswer => ?_
    -- The run has come to an answer, so it does not go on.
    have hentered := h.entered sub (List.mem_of_getElem? hk) n r hr hid hanswer
    have hnone : (Stage.entered n).answer? s.engine = r.answer? := Stage.answer?_entered hr
    rw [hentered, hnone, hanswer] at ha
    cases ha
  | take => exact ⟨h.nodup, h.held, h.entered⟩
  | @dismiss k current hk =>
    refine ⟨h.nodup, entriesHeld_dismiss h.held current, fun x hx n run hrun => ?_⟩
    rw [dismiss_runs] at hrun
    exact h.entered x hx n run hrun
  | @engine event e he =>
    have hsteps := Engine.step?_cases he
    refine ⟨h.nodup, hsteps.entriesHeld h.held, fun x hx n run hrun hid hanswer => ?_⟩
    rcases hsteps.run_cases hrun with ⟨-, -, q, rfl, hq, -⟩ | ⟨hrun, -⟩ |
      ⟨r, m, p, files, registry, -, hr, hm, -, rfl⟩
    · have hx' : q.id ∈ s.ids := List.mem_map.2 ⟨x, hx, hq ▸ hid.symm⟩
      exact absurd hx' hfresh
    · exact h.entered x hx n run hrun hid hanswer
    · exact h.entered x hx n r hr hid hm.answer?_eq_none

/-- Whether the session has given up the run with this identifier. -/
def GivenUp (s : Shared) (missed : List RunId) (id : RunId) : Prop :=
  s.IsDue id ∨ id ∈ missed

/-- Whatever is in flight or still to be registered is the current run or has been given up, and a
run that has been given up does not become the current one again. -/
structure Accounted (s : Shared) (missed : List RunId) : Prop where
  current_mem : ∀ id, s.session.current = some id → id ∈ s.ids
  givenUp_mem : ∀ id, s.GivenUp missed id → id ∈ s.ids
  givenUp_ne : ∀ id, s.GivenUp missed id → s.session.current ≠ some id
  accounted : ∀ id ∈ s.ids, s.Waits id ∨ s.engine.isRunning id = true →
    s.session.current = some id ∨ s.GivenUp missed id

section Put

variable {s : Shared} {k : Nat} {sub : Submission} {stage : Stage} {id : RunId}

private theorem waits_put (hnodup : s.ids.Nodup) (hk : s.submissions[k]? = some sub) :
    (s.put k sub stage).Waits id ↔
      sub.request.id = id ∧ stage.isWaiting = true ∨ id ≠ sub.request.id ∧ s.Waits id := by
  simp only [Waits, mem_put hnodup hk]
  constructor
  · rintro ⟨x, rfl | ⟨hx, hne⟩, rfl, hwaits⟩
    · exact Or.inl ⟨rfl, hwaits⟩
    · exact Or.inr ⟨hne, x, hx, rfl, hwaits⟩
  · rintro (⟨rfl, hwaits⟩ | ⟨hne, x, hx, rfl, hwaits⟩)
    · exact ⟨_, Or.inl rfl, rfl, hwaits⟩
    · exact ⟨x, Or.inr ⟨hx, hne⟩, rfl, hwaits⟩

private theorem isDue_of_put (hnodup : s.ids.Nodup) (hk : s.submissions[k]? = some sub)
    (hstage : stage.previous? = none) (h : (s.put k sub stage).IsDue id) : s.IsDue id := by
  refine h.imp_left ?_
  rintro ⟨x, hx, hprevious⟩
  rcases (mem_put hnodup hk).1 hx with rfl | ⟨hx, -⟩
  · rw [hstage] at hprevious
    cases hprevious
  · exact ⟨x, hx, hprevious⟩

private theorem isDue_put (hnodup : s.ids.Nodup) (hk : s.submissions[k]? = some sub)
    (hsub : sub.stage.previous? ≠ some id) (h : s.IsDue id) : (s.put k sub stage).IsDue id := by
  refine h.imp_left ?_
  rintro ⟨x, hx, hprevious⟩
  refine ⟨x, (mem_put hnodup hk).2 (Or.inr ⟨hx, fun hid => hsub ?_⟩), hprevious⟩
  obtain rfl : x = sub := List.inj_on_of_nodup_map hnodup hx (List.mem_of_getElem? hk) hid
  exact hprevious

private theorem isDue_put_iff (hnodup : s.ids.Nodup) (hk : s.submissions[k]? = some sub)
    (hsub : sub.stage.previous? = none) (hstage : stage.previous? = none) :
    (s.put k sub stage).IsDue id ↔ s.IsDue id :=
  ⟨isDue_of_put hnodup hk hstage, isDue_put hnodup hk (by simp [hsub])⟩

end Put

theorem Accounted.dismiss {s s' : Shared} {missed : List RunId} (h : s.Accounted missed)
    {current : Option RunId} (hdue : ∀ id, current = some id → s.IsDue id)
    (hsession : s'.session = s.session) (hids : s'.ids = s.ids)
    (hengine : s'.engine = (Session.dismiss s.engine current).1)
    (hwaits : ∀ id, s'.Waits id → s.Waits id) (hkept : ∀ id, s'.IsDue id → s.IsDue id)
    (hleft : ∀ id, s.IsDue id → current ≠ some id → s'.IsDue id) :
    s'.Accounted (s.miss current missed) := by
  have hgiven : ∀ id, s'.GivenUp (s.miss current missed) id → s.GivenUp missed id := by
    rintro id (hid | hid)
    · exact Or.inl (hkept id hid)
    · rcases mem_miss.1 hid with hid | ⟨hid, -⟩
      · exact Or.inr hid
      · exact Or.inl (hdue id hid)
  refine ⟨?_, ?_, ?_, ?_⟩
  · rw [hsession, hids]
    exact h.current_mem
  · rw [hids]
    exact fun id hid => h.givenUp_mem id (hgiven id hid)
  · rw [hsession]
    exact fun id hid => h.givenUp_ne id (hgiven id hid)
  · rw [hsession, hids, hengine]
    intro id hmem hlive
    rw [isRunning_dismiss] at hlive
    have hold := h.accounted id hmem (hlive.imp (hwaits id) And.left)
    refine hold.imp_right fun hold => ?_
    rcases hold with hold | hold
    · by_cases hid : current = some id
      · -- It is no longer in flight, so it waits, and the cancel has missed it.
        have hwaiting := hlive.resolve_right fun hrun => hrun.2 hid
        exact Or.inr (mem_miss.2 (Or.inr ⟨hid, hwaits id hwaiting⟩))
      · exact Or.inl (hleft id hold hid)
    · exact Or.inr (mem_miss.2 (Or.inl hold))

private theorem Accounted.giveUp {s s' : Shared} {missed : List RunId} (h : s.Accounted missed)
    (hids : ∀ id ∈ s.ids, id ∈ s'.ids)
    (hdue : ∀ id, s'.IsDue id ↔ s.IsDue id ∨ s.session.current = some id)
    (hcurrent : ∀ id, s'.session.current = some id → id ∈ s'.ids ∧ id ∉ s.ids)
    (haccounted : ∀ id ∈ s'.ids, s'.Waits id ∨ s'.engine.isRunning id = true →
      s'.session.current = some id ∨
        id ∈ s.ids ∧ (s.Waits id ∨ s.engine.isRunning id = true)) :
    s'.Accounted missed := by
  have hgiven : ∀ id, s'.GivenUp missed id ↔ s.GivenUp missed id ∨ s.session.current = some id :=
    fun id => by rw [GivenUp, GivenUp, hdue, or_right_comm]
  have hmem : ∀ id, s'.GivenUp missed id → id ∈ s.ids := fun id hid =>
    ((hgiven id).1 hid).elim (h.givenUp_mem id) (h.current_mem id)
  refine ⟨fun id hid => (hcurrent id hid).1, fun id hid => hids id (hmem id hid),
    fun id hid hcur => (hcurrent id hcur).2 (hmem id hid), fun id hid hlive => ?_⟩
  refine (haccounted id hid hlive).imp_right fun hold => (hgiven id).2 ?_
  exact (h.accounted id hold.1 hold.2).symm

theorem Accounted.keep {s s' : Shared} {missed : List RunId} (h : s.Accounted missed)
    (hids : s'.ids = s.ids) (hdue : ∀ id, s'.IsDue id ↔ s.IsDue id)
    (hcurrent : ∀ id, s'.session.current = some id → s.session.current = some id)
    (hlive : ∀ id ∈ s.ids, s'.Waits id ∨ s'.engine.isRunning id = true →
      (s.Waits id ∨ s.engine.isRunning id = true) ∧
        (s.session.current = some id → s'.session.current = some id)) :
    s'.Accounted missed := by
  have hgiven : ∀ id, s'.GivenUp missed id ↔ s.GivenUp missed id :=
    fun id => by rw [GivenUp, GivenUp, hdue]
  refine ⟨?_, ?_, ?_, ?_⟩
  · rw [hids]
    exact fun id hid => h.current_mem id (hcurrent id hid)
  · rw [hids]
    exact fun id hid => h.givenUp_mem id ((hgiven id).1 hid)
  · exact fun id hid hcur => h.givenUp_ne id ((hgiven id).1 hid) (hcurrent id hcur)
  · rw [hids]
    intro id hid hlive'
    obtain ⟨hold, hkeep⟩ := hlive id hid hlive'
    exact (h.accounted id hid hold).imp hkeep (hgiven id).2

theorem Accounted.replace {s : Shared} {missed : List RunId} (h : s.Accounted missed) {r : Request}
    (hfresh : r.id ∉ s.ids) :
    Accounted { s with
      session := ⟨some r.id⟩
      submissions := s.submissions ++ [⟨r, .superseding s.session.current⟩] } missed := by
  set s' : Shared := { s with
    session := ⟨some r.id⟩
    submissions := s.submissions ++ [⟨r, .superseding s.session.current⟩] } with hs'
  have hids : s'.ids = s.ids ++ [r.id] := by rw [ids, hs', List.map_append]; rfl
  have hwaits : ∀ id, s'.Waits id → s.Waits id ∨ r.id = id := by
    rintro id ⟨x, hx, hid, hwaits⟩
    rcases List.mem_append.1 hx with hx | hx
    · exact Or.inl ⟨x, hx, hid, hwaits⟩
    · rw [List.mem_singleton.1 hx] at hid
      exact Or.inr hid
  -- The new submission owes its cancel to the run that was current, which so stays accounted for.
  refine h.giveUp ?_ (fun id => ?_) ?_ fun id hid hlive => ?_
  · rw [hids]
    exact fun id hid => List.mem_append_left _ hid
  · simp only [IsDue, hs', List.mem_append, List.mem_singleton, or_and_right, exists_or,
      exists_eq_left, Stage.previous?, or_right_comm]
  · rw [hids]
    rintro id hid
    obtain rfl := Option.some.inj hid
    exact ⟨List.mem_append_right _ (List.mem_singleton_self _), hfresh⟩
  · rw [hids, List.mem_append, List.mem_singleton] at hid
    rcases hid with hid | rfl
    · rcases hlive with hlive | hlive
      · rcases hwaits id hlive with hold | rfl
        · exact Or.inr ⟨hid, Or.inl hold⟩
        · exact Or.inl rfl
      · exact Or.inr ⟨hid, Or.inr hlive⟩
    · exact Or.inl rfl

theorem Accounted.step {s s' : Shared} {event : Event} {missed : List RunId}
    (h : s.Accounted missed) (hlinked : s.Linked) (hfresh : s.Fresh event)
    (hstep : Steps s event s') : s'.Accounted (s.noteMissed event missed) := by
  have hnodup := hlinked.nodup
  cases hstep with
  | replace r => exact h.replace hfresh.1
  | @supersede k sub previous hk hstage =>
    have hsub := List.mem_of_getElem? hk
    have hprevious : sub.stage.previous? = previous := by rw [hstage]; rfl
    have hnote : s.noteMissed (.supersede k) missed = s.miss previous missed := by
      rw [noteMissed, dismissed?, hk, Option.bind_eq_bind, Option.bind_some, hprevious]
    rw [hnote]
    -- The cancel either finds the run or is noted as missed; nobody else loses the one due to it.
    refine h.dismiss (fun id hid => ?_) rfl (ids_put hk) rfl (fun id hid => ?_)
      (fun id hid => ?_) fun id hid hne => ?_
    · exact Or.inl ⟨sub, hsub, hprevious.trans hid⟩
    · rcases (waits_put hnodup hk).1 hid with ⟨rfl, -⟩ | ⟨-, hwaits⟩
      · exact ⟨sub, hsub, rfl, by rw [hstage]; rfl⟩
      · exact hwaits
    · exact isDue_of_put hnodup hk rfl hid
    · exact isDue_put hnodup hk (hprevious ▸ hne) hid
  | @enter k sub hk hstage =>
    have hsub := List.mem_of_getElem? hk
    have hwaits : s.Waits sub.request.id := ⟨sub, hsub, rfl, by rw [hstage]; rfl⟩
    refine h.keep (ids_put hk) (fun id => ?_) (fun id hid => hid) fun id hid hlive =>
      ⟨?_, fun hcur => hcur⟩
    · exact isDue_put_iff hnodup hk (by rw [hstage]; rfl) (Stage.previous?_ofSubmit _)
    · rcases hlive with hlive | hlive
      · rcases (waits_put hnodup hk).1 hlive with ⟨rfl, -⟩ | ⟨-, hold⟩
        · exact Or.inl hwaits
        · exact Or.inl hold
      · have hsteps := Engine.step?_cases
          (show s.engine.step? (.submit sub.request) = some _ from rfl)
        rcases hsteps.isRunning hlive with hold | ⟨q, hq, rfl⟩
        · exact Or.inr hold
        · cases hq
          exact Or.inl hwaits
  | @finish k sub a hk ha =>
    have hover := hlinked.isRunning_eq_false (List.mem_of_getElem? hk) ha
    refine h.keep (ids_put hk) (fun id => ?_) (fun id hid => (current_clear.1 hid).1)
      fun id hid hlive => ?_
    · exact isDue_put_iff hnodup hk (Stage.previous?_of_answer? ha) rfl
    · have hne : id ≠ sub.request.id ∧ (s.Waits id ∨ s.engine.isRunning id = true) := by
        rcases hlive with hlive | hlive
        · rcases (waits_put hnodup hk).1 hlive with ⟨-, hwaits⟩ | ⟨hne, hold⟩
          · cases hwaits
          · exact ⟨hne, Or.inl hold⟩
        · refine ⟨?_, Or.inr hlive⟩
          rintro rfl
          exact Bool.false_ne_true (hover.symm.trans hlive)
      exact ⟨hne.2, fun hcur => current_clear.2 ⟨hcur, hne.1⟩⟩
  | take =>
    refine h.giveUp (fun id hid => hid) (fun id => ?_) (fun id hid => nomatch hid)
      fun id hid hlive => Or.inr ⟨hid, hlive⟩
    simp only [IsDue, List.mem_append, List.mem_singleton, or_assoc, eq_comm]
  | @dismiss k current hk =>
    have hnote : s.noteMissed (.dismiss k) missed = s.miss current missed := by
      rw [noteMissed, dismissed?, hk, Option.join_some]
    rw [hnote]
    refine h.dismiss (fun id hid => ?_) rfl rfl rfl (fun id hid => hid) (fun id hid => ?_)
      fun id hid hne => ?_
    · exact Or.inr (hid ▸ List.mem_of_getElem? hk)
    · exact hid.imp_right List.mem_of_mem_eraseIdx
    · refine hid.imp_right fun hid => List.mem_eraseIdx_iff_getElem?.2 ?_
      obtain ⟨i, hi⟩ := List.mem_iff_getElem?.1 hid
      refine ⟨i, ?_, hi⟩
      rintro rfl
      exact hne (Option.some.inj (hk.symm.trans hi))
  | @engine event e he =>
    refine h.keep rfl (fun id => Iff.rfl) (fun id hid => hid) fun id hid hlive =>
      ⟨hlive.imp_right fun hlive => ?_, fun hcur => hcur⟩
    rcases (Engine.step?_cases he).isRunning hlive with hold | ⟨q, rfl, rfl⟩
    · exact hold
    · exact absurd hid hfresh

private theorem linked_accounted {settings : Settings} {files : Files} {s : Shared}
    {missed : List RunId}
    (h : Observed Fresh noteMissed { engine := { settings, files } } [] s missed) :
    s.Linked ∧ s.Accounted missed := by
  refine h.invariant (P := fun s missed => s.Linked ∧ s.Accounted missed) ⟨?_, ?_⟩ ?_
  · exact ⟨List.nodup_nil, by simp [Engine.EntriesHeld], by simp⟩
  · exact ⟨by simp, by simp [GivenUp, IsDue], by simp, by simp [ids]⟩
  · exact fun hs hfresh hstep => ⟨hs.1.step hfresh hstep, hs.2.step hs.1 hfresh hstep⟩

private theorem mem_tracked {s : Shared} {id : RunId} :
    id ∈ s.tracked ↔ id ∈ s.ids ∧ s.engine.isRunning id = true :=
  List.mem_filter

/-- In quiet moments the runs in flight are the current one and those that a cancel has missed. So
there is at most one, and it is the current one, exactly if none was missed; then who supersedes or
cancels it finds it, and it is no longer in flight. -/
theorem exclusive_iff_of_quiet {settings : Settings} {files : Files} {s : Shared}
    {missed : List RunId}
    (h : Observed Fresh noteMissed { engine := { settings, files } } [] s missed)
    (hquiet : s.IsQuiet) :
    (∀ id ∈ s.tracked, s.session.current = some id ↔ id ∉ missed) ∧
      ((s.tracked.length ≤ 1 ∧ ∀ id ∈ s.tracked, s.session.current = some id) ↔
        ∀ id ∈ s.tracked, id ∉ missed) ∧
      ∀ id ∈ s.tracked, id ∉ missed →
        (Session.dismiss s.engine s.session.current).2 = true ∧
          (Session.dismiss s.engine s.session.current).1.isRunning id = false := by
  obtain ⟨hlinked, haccounted⟩ := linked_accounted h
  have hdue : ∀ id, ¬ s.IsDue id := by
    rintro id (⟨sub, hsub, hprevious⟩ | hid)
    · have hstage := hquiet.1 sub hsub
      cases hs : sub.stage <;> simp [hs, Stage.isSuperseding, Stage.previous?] at hstage hprevious
    · simp [hquiet.2] at hid
  have hcurrent : ∀ id ∈ s.tracked, s.session.current = some id ↔ id ∉ missed := by
    intro id hid
    obtain ⟨hmem, hrunning⟩ := mem_tracked.1 hid
    constructor
    · exact fun hcur hmissed => haccounted.givenUp_ne id (Or.inr hmissed) hcur
    · intro hmissed
      have hlive := haccounted.accounted id hmem (Or.inr hrunning)
      exact hlive.resolve_right fun hgiven => hgiven.elim (hdue id) hmissed
  refine ⟨hcurrent, ⟨fun hone id hid => (hcurrent id hid).1 (hone.2 id hid), fun hnone => ?_⟩, ?_⟩
  · have hall : ∀ id ∈ s.tracked, s.session.current = some id := fun id hid =>
      (hcurrent id hid).2 (hnone id hid)
    refine ⟨?_, hall⟩
    have hnodup : s.tracked.Nodup := hlinked.nodup.filter _
    cases htracked : s.tracked with
    | nil => simp
    | cons i ids =>
      cases ids with
      | nil => simp
      | cons j ids =>
        rw [htracked] at hnodup hall
        have hij : i = j := Option.some.inj ((hall i (by simp)).symm.trans (hall j (by simp)))
        simp [hij] at hnodup
  · intro id hid hmissed
    have hrunning := (mem_tracked.1 hid).2
    rw [(hcurrent id hid).2 hmissed]
    refine ⟨Registry.cancel_eq_tracks.trans hrunning, ?_⟩
    rw [← Bool.not_eq_true, isRunning_dismiss]
    exact fun hgone => hgone.2 rfl

/-- The second submission comes while the run of the first is in flight, and cancels it. -/
theorem exclusive_iff_of_quiet_of_supersede :
    ∃ s missed, Observed Fresh noteMissed { engine := Engine.bare } [] s missed ∧ s.IsQuiet ∧
      s.tracked = [pong.id] ∧ s.session.current = some pong.id ∧
      s.tracked.length ≤ 1 ∧ ∀ id ∈ s.tracked, s.session.current = some id := by
  have hstart : Observed Fresh noteMissed { engine := Engine.bare } [] _ _ := .refl
  have hone := ((hstart.step (.replace Engine.ping) ⟨by decide, by decide⟩ rfl).step
    (.supersede 0) trivial rfl).step (.enter 0) trivial rfl
  have htwo := ((hone.step (.replace pong) ⟨by decide, by decide⟩ rfl).step
    (.supersede 1) trivial rfl).step (.enter 1) trivial rfl
  have hexclusive := exclusive_iff_of_quiet htwo ⟨by decide, rfl⟩
  exact ⟨_, _, htwo, ⟨by decide, rfl⟩, rfl, rfl, hexclusive.2.1.2 (by decide)⟩

/-- The second submission cancels the run of the first before that is registered. Then both are in
flight, and the session only knows of the second. -/
theorem exists_two_tracked :
    ∃ s missed, Observed Fresh noteMissed { engine := Engine.bare } [] s missed ∧ s.IsQuiet ∧
      s.tracked = [Engine.ping.id, pong.id] ∧ Engine.ping.id ≠ pong.id ∧
      s.session.current = some pong.id := by
  have hstart : Observed Fresh noteMissed { engine := Engine.bare } [] _ _ := .refl
  have htwo := (hstart.step (.replace Engine.ping) ⟨by decide, by decide⟩ rfl).step
    (.replace pong) ⟨by decide, by decide⟩ rfl
  have hmissed := (htwo.step (.supersede 0) trivial rfl).step (.supersede 1) trivial rfl
  have hrun := (hmissed.step (.enter 1) trivial rfl).step (.enter 0) trivial rfl
  exact ⟨_, _, hrun, ⟨by decide, rfl⟩, rfl, by decide, rfl⟩

end Shared

end Scratchpad.Session
