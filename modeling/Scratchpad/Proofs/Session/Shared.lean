import Scratchpad.Proofs.Engine.InFlight
import Scratchpad.Session.Shared

/-!
What one event does to a session that is shared. `Shared.Steps` lists the effects, `Shared.Observed`
follows a session through the events that are allowed, with a note that an observer keeps of them. A
submission to which nothing comes in between goes as `Session.submit` says
(`Shared.run?_submit`), and a cancel as `Session.cancel` says (`Shared.run?_cancel`).
-/

set_option autoImplicit false
set_option relaxedAutoImplicit false

namespace Scratchpad.Session

def Stage.previous? : Stage → Option RunId
  | .superseding previous => previous
  | _ => none

theorem Stage.previous?_of_answer? {e : Engine} {stage : Stage} {a : Answer}
    (h : stage.answer? e = some a) : stage.previous? = none := by
  cases stage <;> simp_all [Stage.answer?, previous?]

theorem Stage.answer?_entered {e : Engine} {n : Nat} {r : Run} (hr : e.runs[n]? = some r) :
    (Stage.entered n).answer? e = r.answer? := by
  rw [Stage.answer?, Engine.answer?, hr]
  rfl

namespace Shared

/-- What an event does. -/
inductive Steps (s : Shared) : Event → Shared → Prop
  | replace (r : Request) :
    Steps s (.replace r)
      { s with
        session := ⟨some r.id⟩
        submissions := s.submissions ++ [⟨r, .superseding s.session.current⟩] }
  | supersede {k : Nat} {sub : Submission} {previous : Option RunId}
      (hk : s.submissions[k]? = some sub) (hstage : sub.stage = .superseding previous) :
    Steps s (.supersede k)
      { s.put k sub .entering with engine := (Session.dismiss s.engine previous).1 }
  | enter {k : Nat} {sub : Submission} (hk : s.submissions[k]? = some sub)
      (hstage : sub.stage = .entering) :
    Steps s (.enter k)
      { s.put k sub (.ofSubmit (s.engine.submit sub.request).2) with
        engine := (s.engine.submit sub.request).1 }
  | finish {k : Nat} {sub : Submission} {a : Answer} (hk : s.submissions[k]? = some sub)
      (hanswer : sub.stage.answer? s.engine = some a) :
    Steps s (.finish k)
      { s.put k sub (.returned a) with session := s.session.clear sub.request.id }
  | take : Steps s .take { s with session := {}, taken := s.taken ++ [s.session.current] }
  | dismiss {k : Nat} {current : Option RunId} (hk : s.taken[k]? = some current) :
    Steps s (.dismiss k)
      { s with engine := (Session.dismiss s.engine current).1, taken := s.taken.eraseIdx k }
  | engine {event : Scratchpad.Event} {e : Engine} (h : s.engine.step? event = some e) :
    Steps s (.engine event) { s with engine := e }

theorem step?_cases {s s' : Shared} {event : Event} (h : s.step? event = some s') :
    Steps s event s' := by
  cases event with
  | replace r =>
    obtain rfl := Option.some.inj h
    exact .replace r
  | supersede k =>
    obtain ⟨sub, hk, h⟩ := Option.bind_eq_some_iff.1 h
    split at h
    · next hstage =>
      obtain rfl := Option.some.inj h
      exact .supersede hk hstage
    · cases h
  | enter k =>
    obtain ⟨sub, hk, h⟩ := Option.bind_eq_some_iff.1 h
    split at h
    · next hstage =>
      obtain rfl := Option.some.inj h
      exact .enter hk hstage
    · cases h
  | finish k =>
    obtain ⟨sub, hk, h⟩ := Option.bind_eq_some_iff.1 h
    obtain ⟨a, hanswer, h⟩ := Option.bind_eq_some_iff.1 h
    obtain rfl := Option.some.inj h
    exact .finish hk hanswer
  | take =>
    obtain rfl := Option.some.inj h
    exact .take
  | dismiss k =>
    obtain ⟨current, hk, h⟩ := Option.bind_eq_some_iff.1 h
    obtain rfl := Option.some.inj h
    exact .dismiss hk
  | engine event =>
    obtain ⟨e, he, h⟩ := Option.bind_eq_some_iff.1 h
    obtain rfl := Option.some.inj h
    exact .engine he

/-- The sessions that a session can become by events that are allowed, each with what an observer has
noted on the way. -/
inductive Observed {σ : Type} (allowed : Shared → Event → Prop) (note : Shared → Event → σ → σ)
    (start : Shared) (first : σ) : Shared → σ → Prop
  | refl : Observed allowed note start first start first
  | step {s s' : Shared} {x : σ} (event : Event) :
    Observed allowed note start first s x → allowed s event → s.step? event = some s' →
      Observed allowed note start first s' (note s event x)

theorem Observed.invariant {σ : Type} {allowed : Shared → Event → Prop}
    {note : Shared → Event → σ → σ} {start s : Shared} {first x : σ} {P : Shared → σ → Prop}
    (h : Observed allowed note start first s x) (hfirst : P start first)
    (hstep : ∀ {s s' : Shared} {event : Event} {x : σ}, P s x → allowed s event →
      Steps s event s' → P s' (note s event x)) : P s x := by
  induction h with
  | refl => exact hfirst
  | step event _ hallowed hs ih => exact hstep ih hallowed (step?_cases hs)

def run? (s : Shared) (events : List Event) : Option Shared :=
  events.foldlM step? s

theorem run?_submit (s : Shared) (r : Request) :
    s.run? [.replace r, .supersede s.submissions.length, .enter s.submissions.length] = some
      { s with
        session := (Session.submit s.session s.engine r).1
        engine := (Session.submit s.session s.engine r).2.1
        submissions := s.submissions ++
          [⟨r, .ofSubmit (Session.submit s.session s.engine r).2.2⟩] } := by
  simp [run?, step?, put, replace, submit]

theorem run?_cancel (s : Shared) :
    s.run? [.take, .dismiss s.taken.length] = some
      { s with
        session := (Session.cancel s.session s.engine).1
        engine := (Session.cancel s.session s.engine).2.1 } := by
  simp [run?, step?, Session.take, Session.cancel, List.eraseIdx_append_of_length_le]

section Put

variable {s : Shared} {k : Nat} {sub : Submission} {stage : Stage}

theorem ids_put (hk : s.submissions[k]? = some sub) : (s.put k sub stage).ids = s.ids := by
  have hid : s.ids[k]? = some sub.request.id := by rw [ids, List.getElem?_map, hk, Option.map_some]
  obtain ⟨hlt, hid⟩ := List.getElem?_eq_some_iff.1 hid
  rw [ids, put, List.map_set, ← ids]
  exact hid ▸ List.set_getElem_self hlt

theorem mem_put (hnodup : s.ids.Nodup) (hk : s.submissions[k]? = some sub) {x : Submission} :
    x ∈ (s.put k sub stage).submissions ↔
      x = { sub with stage } ∨ x ∈ s.submissions ∧ x.request.id ≠ sub.request.id := by
  have hlt : k < s.submissions.length := (List.getElem?_eq_some_iff.1 hk).1
  rw [put, List.mem_iff_getElem?]
  constructor
  · rintro ⟨j, hj⟩
    by_cases hjk : j = k
    · subst hjk
      rw [List.getElem?_set_self hlt] at hj
      exact Or.inl (Option.some.inj hj).symm
    · rw [List.getElem?_set_ne (Ne.symm hjk)] at hj
      refine Or.inr ⟨List.mem_of_getElem? hj, fun hid => hjk ?_⟩
      have hjlt : j < s.ids.length := by
        rw [ids, List.length_map]
        exact (List.getElem?_eq_some_iff.1 hj).1
      refine (List.getElem?_inj hjlt hnodup).1 ?_
      rw [ids, List.getElem?_map, List.getElem?_map, hj, hk, Option.map_some, Option.map_some, hid]
  · rintro (rfl | ⟨hx, hid⟩)
    · exact ⟨k, List.getElem?_set_self hlt⟩
    · obtain ⟨j, hj⟩ := List.mem_iff_getElem?.1 hx
      have hjk : k ≠ j := by
        rintro rfl
        exact hid (by rw [Option.some.inj (hj.symm.trans hk)])
      exact ⟨j, by rwa [List.getElem?_set_ne hjk]⟩

end Put

def pong : Request :=
  { Engine.ping with id := ⟨8⟩ }

end Shared

end Scratchpad.Session
