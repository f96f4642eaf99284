import Mathlib.Data.List.Basic
import Scratchpad.Proofs.Registry.Basic
import Scratchpad.Proofs.Script.Rendering
import Scratchpad.Engine.Rounds

/-!
What one event does to an engine. `Engine.Moves` lists the moves of a run with their guards and their
effects, and `Engine.step?_cases` says that an event is a move of one run, a submission or a request
to cancel. `Engine.Observed` follows an engine from event to event together with a note that an
observer keeps of them, for statements about what has happened so far. Runs that take their courses,
alone or side by side, only pass through engines that the events lead to.
-/

set_option autoImplicit false
set_option relaxedAutoImplicit false

namespace Scratchpad.Engine

/-- A move of a run, with the phase that it leads to and the files and the registry that it
leaves. -/
inductive Moves (e : Engine) (r : Run) : Move → Phase → Files → Registry → Prop
  | prepare (interpreter : Text) (h : r.phase = .registered) :
    Moves e r (.prepare interpreter) (e.preparedPhase r interpreter) e.files e.registry
  | write {script : Script} {interpreter : Text} (h : r.phase = .prepared script interpreter)
      (hfault : e.files.writeFault? (e.scriptPath r.request) = none) :
    Moves e r (.write none) (.written script interpreter)
      (e.files.write (e.scriptPath r.request) script.source) e.registry
  | writeFault {script : Script} {interpreter : Text} (f : Files.Fault)
      (h : r.phase = .prepared script interpreter) :
    Moves e r (.write (some f))
      (.decided (.finished (.ofError (writeMessage (e.scriptPath r.request) f))) false) e.files
      e.registry
  | breakOff {script : Script} {interpreter : Text} (part : Text) (f : Files.Fault)
      (h : r.phase = .prepared script interpreter)
      (hfault : e.files.writeFault? (e.scriptPath r.request) = none) :
    Moves e r (.breakOff part f)
      (.decided (.finished (.ofError (writeMessage (e.scriptPath r.request) f))) false)
      (e.files.write (e.scriptPath r.request) part) e.registry
  | start {script : Script} {interpreter : Text} (h : r.phase = .written script interpreter) :
    Moves e r (.start none) (.running script) e.files e.registry
  | startFault {script : Script} {interpreter : Text} (f : Files.Fault)
      (h : r.phase = .written script interpreter) :
    Moves e r (.start (some f))
      (.decided (.finished (.ofError (startMessage r.request.language interpreter f))) false)
      e.files e.registry
  | close {script : Script} (remains : Remains) (h : r.phase = .running script) :
    Moves e r (.close remains) (.ended script remains) e.files e.registry
  | stop {script : Script} (h : r.phase = .running script)
      (hsignal : r.isSignalled e.registry = true) :
    Moves e r .stop (.decided .cancelled false) e.files e.registry
  | decide {script : Script} {remains : Remains} (h : r.phase = .ended script remains) :
    Moves e r .decide
      (.decided (deliver script.language script.probes remains (r.isSignalled e.registry)).1
        (deliver script.language script.probes remains (r.isSignalled e.registry)).2)
      e.files e.registry
  | clean {outcome : Outcome} {keep : Bool} (h : r.phase = .decided outcome keep) :
    Moves e r .clean (.leaving (.ok outcome))
      (if keep then e.files else e.files.removeFile (e.scriptPath r.request)) e.registry
  | leave {answer : Answer} (h : r.phase = .leaving answer) :
    Moves e r .leave (.over answer) e.files (e.registry.release r.registration)

def after (e : Engine) (n : Nat) (r : Run) (p : Phase) (files : Files) (registry : Registry) :
    Engine :=
  { e with runs := e.runs.set n { r with phase := p }, files := files, registry := registry }

private theorem move?_cases {e e' : Engine} {n : Nat} {r : Run} {m : Move}
    (h : e.move? n r m = some e') :
    ∃ p files registry, Moves e r m p files registry ∧ e' = e.after n r p files registry := by
  obtain ⟨request, registration, phase⟩ := r
  unfold move? at h
  split at h
  · next hp => exact ⟨_, _, _, .prepare _ hp, (Option.some.inj h).symm⟩
  · next hp =>
    split at h
    · next hfault =>
      exact ⟨_, _, _, .write hp (Option.isNone_iff_eq_none.1 hfault), (Option.some.inj h).symm⟩
    · simp at h
  · next hp => exact ⟨_, _, _, .writeFault _ hp, (Option.some.inj h).symm⟩
  · next hp =>
    split at h
    · next hfault =>
      exact ⟨_, _, _, .breakOff _ _ hp (Option.isNone_iff_eq_none.1 hfault),
        (Option.some.inj h).symm⟩
    · simp at h
  · next hp => exact ⟨_, _, _, .start hp, (Option.some.inj h).symm⟩
  · next hp => exact ⟨_, _, _, .startFault _ hp, (Option.some.inj h).symm⟩
  · next hp => exact ⟨_, _, _, .close _ hp, (Option.some.inj h).symm⟩
  · next hp =>
    split at h
    · next hs => exact ⟨_, _, _, .stop hp hs, (Option.some.inj h).symm⟩
    · simp at h
  · next hp => exact ⟨_, _, _, .decide hp, (Option.some.inj h).symm⟩
  · next hp => exact ⟨_, _, _, .clean hp, (Option.some.inj h).symm⟩
  · next hp => exact ⟨_, _, _, .leave hp, (Option.some.inj h).symm⟩
  · simp at h

theorem Moves.step? {e : Engine} {r : Run} {m : Move} {p : Phase} {files : Files}
    {registry : Registry} (h : Moves e r m p files registry) {n : Nat}
    (hr : e.runs[n]? = some r) :
    e.step? (.advance n m) = some (e.after n r p files registry) := by
  rw [Engine.step?, hr]
  cases h with
  | write h hfault =>
    simp only [Option.bind_eq_bind, Option.bind_some, move?, h, hfault, Option.isNone_none, if_true]
    rfl
  | breakOff part f h hfault =>
    simp only [Option.bind_eq_bind, Option.bind_some, move?, h, hfault, Option.isNone_none, if_true]
    rfl
  | stop h hsignal =>
    simp only [Option.bind_eq_bind, Option.bind_some, move?, h, hsignal, if_true]
    rfl
  | prepare interpreter h => simp only [Option.bind_eq_bind, Option.bind_some, move?, h]; rfl
  | writeFault f h => simp only [Option.bind_eq_bind, Option.bind_some, move?, h]; rfl
  | start h => simp only [Option.bind_eq_bind, Option.bind_some, move?, h]; rfl
  | startFault f h => simp only [Option.bind_eq_bind, Option.bind_some, move?, h]; rfl
  | close remains h => simp only [Option.bind_eq_bind, Option.bind_some, move?, h]; rfl
  | decide h => simp only [Option.bind_eq_bind, Option.bind_some, move?, h]; rfl
  | clean h => simp only [Option.bind_eq_bind, Option.bind_some, move?, h]; rfl
  | leave h => simp only [Option.bind_eq_bind, Option.bind_some, move?, h]; rfl

/-- What an event does. -/
inductive Steps (e : Engine) : Event → Engine → Prop
  | accept {q : Request} {g : Registration} (h : (e.registry.register q.id).2 = some g) :
    Steps e (.submit q)
      { e with registry := (e.registry.register q.id).1, runs := e.runs ++ [⟨q, g, .registered⟩] }
  | refuse {q : Request} (h : (e.registry.register q.id).2 = none) :
    Steps e (.submit q) { e with registry := (e.registry.register q.id).1 }
  | advance {n : Nat} {r : Run} {m : Move} {p : Phase} {files : Files} {registry : Registry}
      (hr : e.runs[n]? = some r) (h : Moves e r m p files registry) :
    Steps e (.advance n m) (e.after n r p files registry)
  | cancel (id : RunId) : Steps e (.cancel id) { e with registry := (e.registry.cancel id).1 }
  | cancelAll : Steps e .cancelAll { e with registry := e.registry.cancelAll.1 }

theorem step?_cases {e e' : Engine} {event : Event} (h : e.step? event = some e') :
    Steps e event e' := by
  cases event with
  | submit q =>
    obtain rfl := Option.some.inj h
    unfold submit
    split
    · next registry g hg =>
      have hreg : (e.registry.register q.id).2 = some g := by rw [hg]
      have hsteps := Steps.accept hreg
      rwa [hg] at hsteps
    · next registry hg =>
      have hreg : (e.registry.register q.id).2 = none := by rw [hg]
      have hsteps := Steps.refuse hreg
      rwa [hg] at hsteps
  | advance n m =>
    obtain ⟨r, hr, hm⟩ := Option.bind_eq_some_iff.1 h
    obtain ⟨p, files, registry, hmoves, rfl⟩ := move?_cases hm
    exact .advance hr hmoves
  | cancel id =>
    obtain rfl := Option.some.inj h
    exact .cancel id
  | cancelAll =>
    obtain rfl := Option.some.inj h
    exact .cancelAll

/-- A run after a step is new, or it stands as it stood before, or it is the one that made its
move. -/
theorem Steps.run_cases {e e' : Engine} {event : Event} (h : Steps e event e') {n : Nat} {r' : Run}
    (hr' : e'.runs[n]? = some r') :
    (e.runs[n]? = none ∧ r'.phase = .registered ∧
        ∃ q, event = .submit q ∧ r'.request = q ∧
          (e.registry.register q.id).2 = some r'.registration) ∨
      (e.runs[n]? = some r' ∧ ∀ m, event ≠ .advance n m) ∨
      ∃ r m p files registry, event = .advance n m ∧ e.runs[n]? = some r ∧
        Moves e r m p files registry ∧ e' = e.after n r p files registry ∧
        r' = { r with phase := p } := by
  cases h with
  | @accept q g hg =>
    rcases Nat.lt_trichotomy n e.runs.length with hn | rfl | hn
    · rw [List.getElem?_append_left hn] at hr'
      exact Or.inr (Or.inl ⟨hr', by simp⟩)
    · rw [List.getElem?_append_right (Nat.le_refl _), Nat.sub_self] at hr'
      obtain rfl := Option.some.inj hr'
      exact Or.inl ⟨List.getElem?_eq_none (Nat.le_refl _), rfl, q, rfl, rfl, hg⟩
    · have hlen : (e.runs ++ [Run.mk q g .registered]).length ≤ n := by
        rw [List.length_append, List.length_singleton]
        omega
      rw [List.getElem?_eq_none hlen] at hr'
      simp at hr'
  | refuse hg => exact Or.inr (Or.inl ⟨hr', by simp⟩)
  | @advance k r m p files registry hr hm =>
    by_cases hk : k = n
    · subst hk
      have hlt : k < e.runs.length := (List.getElem?_eq_some_iff.1 hr).1
      simp only [after, List.getElem?_set_self hlt, Option.some.injEq] at hr'
      exact Or.inr (Or.inr ⟨r, m, p, files, registry, rfl, hr, hm, rfl, hr'.symm⟩)
    · rw [after, List.getElem?_set_ne hk] at hr'
      refine Or.inr (Or.inl ⟨hr', fun m' he => ?_⟩)
      injection he with hkn
      exact hk hkn
  | cancel id => exact Or.inr (Or.inl ⟨hr', by simp⟩)
  | cancelAll => exact Or.inr (Or.inl ⟨hr', by simp⟩)

theorem Steps.run_persists {e e' : Engine} {event : Event} (h : Steps e event e') {n : Nat}
    {r : Run} (hr : e.runs[n]? = some r) :
    ∃ r', e'.runs[n]? = some r' ∧ r'.request = r.request ∧ r'.registration = r.registration := by
  have hn : n < e.runs.length := (List.getElem?_eq_some_iff.1 hr).1
  cases h with
  | accept hg => exact ⟨r, by rwa [List.getElem?_append_left hn], rfl, rfl⟩
  | refuse hg => exact ⟨r, hr, rfl, rfl⟩
  | @advance k r₁ m p files registry hr₁ hm =>
    by_cases hk : k = n
    · subst hk
      obtain rfl : r₁ = r := Option.some.inj (hr₁.symm.trans hr)
      exact ⟨_, List.getElem?_set_self hn, rfl, rfl⟩
    · exact ⟨r, by rwa [after, List.getElem?_set_ne hk], rfl, rfl⟩
  | cancel id => exact ⟨r, hr, rfl, rfl⟩
  | cancelAll => exact ⟨r, hr, rfl, rfl⟩

/-- The engines that an engine can become, each with what an observer has noted on the way. -/
inductive Observed {σ : Type} (note : Engine → Event → σ → σ) (start : Engine) (first : σ) :
    Engine → σ → Prop
  | refl : Observed note start first start first
  | step {e e' : Engine} {x : σ} (event : Event) :
    Observed note start first e x → e.step? event = some e' →
      Observed note start first e' (note e event x)

section Observed

variable {σ : Type} {note : Engine → Event → σ → σ} {start e : Engine} {first x : σ}

theorem Observed.move (h : Observed note start first e x) {n : Nat} {r : Run} {m : Move} {p : Phase}
    {files : Files} {registry : Registry} (hr : e.runs[n]? = some r)
    (hm : Moves e r m p files registry) :
    Observed note start first (e.after n r p files registry) (note e (.advance n m) x) :=
  .step (.advance n m) h (hm.step? hr)

theorem Observed.reachable (h : Observed note start first e x) : Reachable start e := by
  induction h with
  | refl => exact .refl
  | step event _ hstep ih => exact .step event ih hstep

theorem Reachable.exists_observed (note : Engine → Event → σ → σ) (first : σ)
    (h : Reachable start e) : ∃ x, Observed note start first e x := by
  induction h with
  | refl => exact ⟨first, .refl⟩
  | step event _ hstep ih =>
    obtain ⟨x, hx⟩ := ih
    exact ⟨_, .step event hx hstep⟩

def run? (e : Engine) (events : List Event) : Option Engine :=
  events.foldlM step? e

theorem run?_cons {e e' : Engine} {event : Event} (h : e.step? event = some e')
    (events : List Event) : e.run? (event :: events) = e'.run? events := by
  rw [Engine.run?, List.foldlM_cons, h]
  rfl

theorem run?_append {e e' e'' : Engine} {xs ys : List Event} (hx : e.run? xs = some e')
    (hy : e'.run? ys = some e'') : e.run? (xs ++ ys) = some e'' := by
  rw [Engine.run?, List.foldlM_append, ← Engine.run?, hx]
  exact hy

theorem Observed.run? (h : Observed note start first e x) {events : List Event} {e' : Engine}
    (hrun : e.run? events = some e') : ∃ y, Observed note start first e' y := by
  induction events generalizing e x with
  | nil =>
    obtain rfl := Option.some.inj hrun
    exact ⟨x, h⟩
  | cons event events ih =>
    rw [Engine.run?, List.foldlM_cons, Option.bind_eq_bind, Option.bind_eq_some_iff] at hrun
    obtain ⟨e₁, hstep, hrest⟩ := hrun
    exact ih (.step event h hstep) hrest

theorem Observed.invariant {P : Engine → σ → Prop} (h : Observed note start first e x)
    (hfirst : P start first)
    (hstep : ∀ {e e' : Engine} {event : Event} {x : σ}, P e x → Steps e event e' →
      P e' (note e event x)) : P e x := by
  induction h with
  | refl => exact hfirst
  | step event _ he ih => exact hstep ih (step?_cases he)

end Observed

section Reachable

variable {start e e' : Engine} {c : Course} {n : Nat}

theorem Reachable.advance? (h : Reachable start e) (ha : c.advance? n e = some e') :
    Reachable start e' := by
  obtain ⟨r, -, hmove⟩ := Option.bind_eq_some_iff.1 ha
  obtain ⟨m, -, hstep⟩ := Option.bind_eq_some_iff.1 hmove
  exact .step (.advance n m) h hstep

theorem Reachable.turn? (h : Reachable start e) (ht : c.turn? n e = some e') :
    Reachable start e' := by
  obtain ⟨r, -, hturn⟩ := Option.bind_eq_some_iff.1 ht
  split at hturn
  · cases hturn
  · exact h.advance? hturn

theorem Reachable.round? {courses : List Course} (h : Reachable start e)
    (hr : Course.round? n courses e = some e') : Reachable start e' := by
  induction courses generalizing n e e' with
  | nil => cases hr
  | cons c cs ih =>
    rw [Course.round?] at hr
    split at hr
    · next e₁ ht =>
      have hturn := h.turn? ht
      obtain rfl := Option.some.inj hr
      cases hrest : Course.round? (n + 1) cs e₁ with
      | none => exact hturn
      | some e₂ => exact ih hturn hrest
    · exact ih h hr

theorem Reachable.expire? {courses : List Course} (h : Reachable start e)
    (hx : Course.expire? n courses e = some e') : Reachable start e' := by
  induction courses generalizing n with
  | nil => cases hx
  | cons c cs ih =>
    rw [Course.expire?] at hx
    split at hx
    · next ha =>
      obtain rfl := Option.some.inj hx
      exact h.advance? ha
    · exact ih hx

/-- Runs that go on side by side pass through engines that events lead to. -/
theorem Reachable.settle (courses : List Course) (rounds : Nat) (h : Reachable start e) :
    Reachable start (e.settle courses n rounds) := by
  induction rounds generalizing e with
  | zero => exact h
  | succ k ih =>
    rw [Engine.settle]
    split
    · exact h
    · split
      · next hr => exact ih (h.round? hr)
      · split
        · next hx => exact ih (h.expire? hx)
        · exact h

theorem Reachable.follow (c : Course) (moves : Nat) (h : Reachable start e) :
    Reachable start (c.follow n moves e) := by
  induction moves generalizing e with
  | zero => exact h
  | succ k ih =>
    rw [Course.follow]
    split
    · next ha => exact ih (h.advance? ha)
    · exact h

end Reachable

theorem scriptOf_eq_ok (e : Engine) (q : Request) : ∃ s, e.scriptOf q = .ok s :=
  Script.exists_build ..

private theorem preparedPhase_eq_prepared {e : Engine} {q : Request} {g : Registration} {s : Script}
    (hs : e.scriptOf q = .ok s) (hsignal : e.registry.isSignalled g = false) (p : Phase)
    (interpreter : Text) : e.preparedPhase ⟨q, g, p⟩ interpreter = .prepared s interpreter := by
  simp only [preparedPhase, hs, Run.isSignalled, hsignal, Bool.false_eq_true, if_false]

theorem exists_run?_prepared {e : Engine} {q : Request} (hfree : e.registry.tracks q.id = false)
    (hsignal : e.registry.isSignalled ⟨q.id, e.registry.next⟩ = false) (interpreter : Text) :
    ∃ s, e.run? [.submit q, .advance e.runs.length (.prepare interpreter)] = some
      { e with
        registry := (e.registry.register q.id).1
        runs := e.runs ++ [⟨q, ⟨q.id, e.registry.next⟩, .prepared s interpreter⟩] } := by
  have hregister := Registry.register_of_free hfree
  have hsubmit : (e.submit q).1 =
      { e with
        registry := (e.registry.register q.id).1
        runs := e.runs ++ [⟨q, ⟨q.id, e.registry.next⟩, .registered⟩] } := by
    unfold submit
    rw [hregister]
  obtain ⟨s, hs⟩ := (e.submit q).1.scriptOf_eq_ok q
  have hprepared := preparedPhase_eq_prepared (e := (e.submit q).1) (g := ⟨q.id, e.registry.next⟩)
    hs (by rw [hsubmit, hregister]; exact hsignal) .registered interpreter
  refine ⟨s, ?_⟩
  have hrun : (e.submit q).1.runs[e.runs.length]? =
      some ⟨q, ⟨q.id, e.registry.next⟩, .registered⟩ := by
    rw [hsubmit, List.getElem?_append_right (Nat.le_refl _), Nat.sub_self]
    rfl
  have hstep : (e.submit q).1.step? (.advance e.runs.length (.prepare interpreter)) = some
      ((e.submit q).1.enter e.runs.length ⟨q, ⟨q.id, e.registry.next⟩, .registered⟩
        (.prepared s interpreter)) := by
    rw [← hprepared, step?, hrun]
    rfl
  rw [run?, List.foldlM_cons, step?, Option.bind_eq_bind, Option.bind_some, List.foldlM_cons, hstep,
    hsubmit]
  simp [enter]

private theorem run?_started {e : Engine} {n : Nat} {r : Run} {s : Script} {interpreter : Text}
    (hr : e.runs[n]? = some r) (hp : r.phase = .prepared s interpreter)
    (hfault : e.files.writeFault? (e.scriptPath r.request) = none) :
    e.run? [.advance n (.write none), .advance n (.start none)] = some
      { e with
        runs := e.runs.set n { r with phase := .running s }
        files := e.files.write (e.scriptPath r.request) s.source } := by
  have hn : n < e.runs.length := (List.getElem?_eq_some_iff.1 hr).1
  rw [run?_cons ((Moves.write hp hfault).step? hr), run?_cons ((Moves.start rfl).step?
    (List.getElem?_set_self hn))]
  simp [run?, after]

theorem exists_run?_started {e : Engine} {q : Request} (hfree : e.registry.tracks q.id = false)
    (hsignal : e.registry.isSignalled ⟨q.id, e.registry.next⟩ = false)
    (hfault : e.files.writeFault? (e.scriptPath q) = none) (interpreter : Text) :
    ∃ s, e.run? [.submit q, .advance e.runs.length (.prepare interpreter),
        .advance e.runs.length (.write none), .advance e.runs.length (.start none)] = some
      { e with
        registry := (e.registry.register q.id).1
        runs := e.runs ++ [⟨q, ⟨q.id, e.registry.next⟩, .running s⟩]
        files := e.files.write (e.scriptPath q) s.source } := by
  obtain ⟨s, hs⟩ := exists_run?_prepared hfree hsignal interpreter
  refine ⟨s, run?_append hs ?_⟩
  have hlast : ∀ r : Run, (e.runs ++ [r])[e.runs.length]? = some r := by simp
  have hset : ∀ r r' : Run, (e.runs ++ [r]).set e.runs.length r' = e.runs ++ [r'] := by simp
  have hstart := run?_started
    (e := { e with
      registry := (e.registry.register q.id).1
      runs := e.runs ++ [⟨q, ⟨q.id, e.registry.next⟩, .prepared s interpreter⟩] })
    (hlast _) rfl hfault
  rw [hset] at hstart
  exact hstart

def bare : Engine where
  settings := ⟨[], [], [], ['/', 't'], none, false⟩
  files := .empty

def ping : Request :=
  ⟨⟨7⟩, .python, "ping".toList, [], none⟩

end Scratchpad.Engine
