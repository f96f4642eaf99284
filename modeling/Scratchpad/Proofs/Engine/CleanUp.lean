import Scratchpad.Proofs.Engine.ScriptFile

/-!
What a run finds and what it leaves behind. From the time when its script is made until its script
file is removed or kept, a run is at work. While it is the only one at work with its identifier and its
language, it finds its own script (`Engine.script_intact_of_sole`). Not so if there is another: a run
that has been cancelled still removes the file at its path when it is stopped at last, even if a run
that was given its identifier has written the file anew. However its work comes to an end, the file is
gone, unless the interpreter has turned the script down; then the file holds the script
(`Engine.script_left_iff_rejected`). Nothing else is touched.
-/

set_option autoImplicit false
set_option relaxedAutoImplicit false

namespace Scratchpad.Engine

/-- Whether a run is about to write its script file or may still own it. -/
def IsAtWork : Phase → Prop
  | .prepared _ _ => True
  | .written _ _ => True
  | .running _ => True
  | .ended _ _ => True
  | .decided _ _ => True
  | _ => False

/-- A run in this phase has written its script, and its interpreter has not ended. -/
def Needs (script : Script) (p : Phase) : Prop :=
  (∃ interpreter, p = .written script interpreter) ∨ p = .running script

def HasReturned : Phase → Prop
  | .leaving _ => True
  | .over _ => True
  | _ => False

/-- Whether the interpreter of a run that has ended has turned the script down: the run was not asked
to stop, there is no framed report, and standard error has one of the marks of such a case. -/
def turnsDown (e : Engine) (r : Run) : Bool :=
  match r.phase with
  | .ended script remains =>
    let how := (Recovery.recover script.language.frame remains.stdout remains.stderr).2
    !r.isSignalled e.registry && decide (how ≠ .framed) &&
      script.language.fatalMarkers.any (Text.occurs · remains.stderr)
  | _ => false

/-- No other run with the identifier and the language of a request is at work. -/
def Sole (e : Engine) (n : Nat) (q : Request) : Prop :=
  ∀ k r, k ≠ n → e.runs[k]? = some r → r.request.id = q.id → r.request.language = q.language →
    ¬ IsAtWork r.phase

/-- What an observer notes while a run is at work. -/
structure Watch where
  /-- No other run with its identifier and its language has been at work. -/
  sole : Prop
  rejected : Bool
  /-- The files before and after each move of the run. -/
  changes : List (Files × Files)

def Watch.start : Watch :=
  ⟨True, false, []⟩

/-- Whether the script of a run has been turned down by the time that it has made a move. That is
found out when the outcome is settled. -/
def rejects (e : Engine) (r : Run) (m : Move) (rejected : Bool) : Bool :=
  match m with
  | .decide => rejected || e.turnsDown r
  | _ => rejected

def noteRejected (n : Nat) (e : Engine) : Event → Bool → Bool
  | .advance k m, rejected =>
    match e.runs[k]? with
    | some r => if k = n then e.rejects r m rejected else rejected
    | none => rejected
  | _, rejected => rejected

def noteChanges (n : Nat) (e : Engine) (event : Event) (changes : List (Files × Files)) :
    List (Files × Files) :=
  match event, e.step? event with
  | .advance k _, some e' => if k = n then (e.files, e'.files) :: changes else changes
  | _, _ => changes

def noteWork (n : Nat) (q : Request) (e : Engine) (event : Event) (w : Watch) : Watch where
  sole := w.sole ∧ e.Sole n q
  rejected := noteRejected n e event w.rejected
  changes := noteChanges n e event w.changes

variable {e e' : Engine} {n : Nat} {r : Run} {m : Move} {p : Phase} {files : Files}
  {registry : Registry}

private theorem deliver_snd_eq_turnsDown {script : Script} {remains : Remains}
    (h : r.phase = .ended script remains) :
    (deliver script.language script.probes remains (r.isSignalled e.registry)).2 =
      e.turnsDown r := by
  simp only [turnsDown, h]
  cases r.isSignalled e.registry with
  | true => rfl
  | false => simp only [deliver, Delivery.isRejected]; rfl

private theorem Moves.at?_of_ne (h : Moves e r m p files registry) {place : List Text}
    (hne : e.files.place (e.scriptPath r.request) ≠ .ok place) :
    files.at? place = e.files.at? place := by
  have hwrite : ∀ content, e.files.writeFault? (e.scriptPath r.request) = none →
      (e.files.write (e.scriptPath r.request) content).at? place = e.files.at? place := by
    intro content hfault
    obtain ⟨spot, hspot, hagree, -⟩ := Files.write_of_writeFault? hfault content
    exact hagree.elsewhere place fun heq => hne (heq ▸ hspot)
  cases h with
  | write h hfault => exact hwrite _ hfault
  | breakOff part f h hfault => exact hwrite _ hfault
  | @clean outcome keep h =>
    cases keep with
    | true => rfl
    | false =>
      rw [if_neg Bool.false_ne_true]
      rcases Files.removeFile_cases e.files (e.scriptPath r.request) with
        ⟨spot, hspot, hagree, -⟩ | ⟨hsame, -⟩
      · exact hagree.elsewhere place fun heq => hne (heq ▸ hspot)
      · rw [hsame]
  | _ => rfl

private theorem leaves_of_not_isAtWork (h : ¬ IsAtWork p) (m : Move) (left : Option Text) :
    leaves p m left = left := by
  cases p with
  | prepared script interpreter => exact absurd trivial h
  | written script interpreter => exact absurd trivial h
  | running script => exact absurd trivial h
  | ended script remains => exact absurd trivial h
  | decided outcome keep => exact absurd trivial h
  | _ => rfl

/-- What stands at the path of a script, and whether it has been turned down, in the phases of a run
that is at work or done. -/
def Stands (script : Script) (rejected : Bool) (left : Option Text) : Phase → Prop
  | .registered => False
  | .prepared s _ => s = script ∧ rejected = false
  | .written s _ => s = script ∧ rejected = false ∧ left = some script.source
  | .running s => s = script ∧ rejected = false ∧ left = some script.source
  | .ended s _ => s = script ∧ rejected = false ∧ left = some script.source
  | .decided _ keep => keep = rejected ∧ (rejected = true → left = some script.source)
  | .leaving _ => left = if rejected then some script.source else none
  | .over _ => left = if rejected then some script.source else none

private theorem Stands.of_hasReturned {script : Script} {rejected : Bool} {left : Option Text}
    (h : Stands script rejected left p) (hdone : HasReturned p) :
    left = if rejected then some script.source else none := by
  unfold HasReturned at hdone
  split at hdone
  · exact h
  · exact h
  · exact hdone.elim

private theorem Stands.of_needs {script needed : Script} {rejected : Bool} {left : Option Text}
    (h : Stands script rejected left p) (hneeds : Needs needed p) :
    needed = script ∧ left = some script.source := by
  rcases hneeds with ⟨interpreter, rfl⟩ | rfl
  · exact ⟨h.1, h.2.2⟩
  · exact ⟨h.1, h.2.2⟩

theorem Stands.decided {script : Script} {rejected : Bool} {left : Option Text}
    (h : rejected = false) (outcome : Outcome) :
    Stands script rejected left (.decided outcome false) := by
  subst h
  exact ⟨rfl, fun hr => absurd hr Bool.false_ne_true⟩

/-- A move keeps what stands at the path in step with the phase of the run. -/
theorem Moves.stands (h : Moves e r m p files registry) {script : Script} {rejected : Bool}
    {left : Option Text} (hs : Stands script rejected left r.phase) :
    Stands script (e.rejects r m rejected) (leaves r.phase m left) p := by
  cases h with
  | prepare interpreter h =>
    rw [h] at hs
    exact hs.elim
  | write h hfault =>
    rw [h] at hs ⊢
    obtain ⟨rfl, hrejected⟩ := hs
    exact ⟨rfl, hrejected, rfl⟩
  | writeFault f h =>
    rw [h] at hs ⊢
    exact .decided hs.2 _
  | breakOff part f h hfault =>
    rw [h] at hs ⊢
    exact .decided hs.2 _
  | start h =>
    rw [h] at hs ⊢
    exact hs
  | startFault f h =>
    rw [h] at hs ⊢
    exact .decided hs.2.1 _
  | close remains h =>
    rw [h] at hs ⊢
    exact hs
  | stop h hsignal =>
    rw [h] at hs ⊢
    exact .decided hs.2.1 _
  | decide h =>
    have hkeep := deliver_snd_eq_turnsDown (e := e) h
    rw [h] at hs ⊢
    obtain ⟨-, hrejected, hleft⟩ := hs
    refine ⟨?_, fun _ => hleft⟩
    rw [hkeep, rejects, hrejected, Bool.false_or]
  | @clean outcome keep h =>
    rw [h] at hs ⊢
    obtain ⟨rfl, hleft⟩ := hs
    cases keep with
    | true => exact hleft rfl
    | false => rfl
  | leave h =>
    rw [h] at hs ⊢
    exact hs

private theorem noteRejected_advance (hr : e.runs[n]? = some r) (m : Move) (rejected : Bool) :
    noteRejected n e (.advance n m) rejected = e.rejects r m rejected := by
  simp only [noteRejected, hr, if_true]

private theorem noteRejected_of_ne {event : Event} (h : ∀ m, event ≠ .advance n m) (rejected : Bool)
    : noteRejected n e event rejected = rejected := by
  cases event with
  | advance k m =>
    have hk : k ≠ n := fun hk => h m (by rw [hk])
    simp only [noteRejected, if_neg hk]
    split <;> rfl
  | _ => rfl

private theorem Moves.noteChanges (h : Moves e r m p files registry) (hr : e.runs[n]? = some r)
    (changes : List (Files × Files)) :
    noteChanges n e (.advance n m) changes = (e.files, files) :: changes := by
  simp only [Engine.noteChanges, h.step? hr, if_true]
  rfl

private theorem noteChanges_of_ne {event : Event} (h : ∀ m, event ≠ .advance n m)
    (changes : List (Files × Files)) : noteChanges n e event changes = changes := by
  unfold noteChanges
  split
  · next k m e' hstep => exact if_neg fun hk => h m (by rw [hk])
  · rfl

private theorem noteLeft_of_sole {q : Request} {event : Event} (hsole : e.Sole n q)
    (h : ∀ m, event ≠ .advance n m) (left : Option Text) :
    noteLeft q.id q.language e event left = left := by
  cases event with
  | advance k m =>
    have hk : k ≠ n := fun hk => h m (by rw [hk])
    cases hrk : e.runs[k]? with
    | none => simp only [noteLeft, hrk]
    | some rk =>
      rw [noteLeft_advance hrk]
      split
      · next hsame => exact leaves_of_not_isAtWork (hsole k rk hk hrk hsame.1 hsame.2) m left
      · rfl
  | _ => rfl

/-- Run `n` goes about its work on a script as noted. -/
structure Works (settings : Settings) (n : Nat) (q : Request) (script : Script) (e : Engine)
    (w : Watch) : Prop where
  sameSettings : e.settings = settings
  run : ∃ r, e.runs[n]? = some r ∧ r.request = q ∧ (w.sole →
    Stands script w.rejected (e.files.content? (pathOf settings q.id q.language)) r.phase)
  touched : ∀ before after, (before, after) ∈ w.changes → ∀ place,
    before.place (pathOf settings q.id q.language) ≠ .ok place → after.at? place = before.at? place

theorem Works.step {settings : Settings} {q : Request} {script : Script} {event : Event} {w : Watch}
    (hw : Works settings n q script e w) (h : Steps e event e') :
    Works settings n q script e' (noteWork n q e event w) := by
  obtain ⟨r, hr, rfl, hstands⟩ := hw.run
  have hsettings := hw.sameSettings
  have hcontent := (h.content? r.request.id r.request.language).2
  rw [hsettings] at hcontent
  refine ⟨(h.content? r.request.id r.request.language).1.trans hsettings, ?_, ?_⟩
  · obtain ⟨r', hr', hreq, -⟩ := h.run_persists hr
    refine ⟨r', hr', hreq, fun hsole => ?_⟩
    have hbefore := hstands hsole.1
    rcases h.run_cases hr' with ⟨hnone, -⟩ | ⟨hr'', hne⟩ |
      ⟨r₁, m, p, files, registry, rfl, hr₁, hm, -, rfl⟩
    · rw [hr] at hnone
      cases hnone
    · -- another run takes a step, and none that shares the path is at work
      obtain rfl : r = r' := Option.some.inj (hr.symm.trans hr'')
      rw [hcontent, noteLeft_of_sole hsole.2 hne, noteWork, noteRejected_of_ne hne]
      exact hbefore
    · -- the run itself moves
      obtain rfl : r = r₁ := Option.some.inj (hr.symm.trans hr₁)
      rw [hcontent, noteLeft_advance hr, if_pos ⟨rfl, rfl⟩, noteWork, noteRejected_advance hr]
      exact hm.stands hbefore
  · by_cases hadvance : ∃ m, event = .advance n m
    · obtain ⟨m, rfl⟩ := hadvance
      cases h with
      | @advance _ r₁ _ p files registry hr₁ hm =>
        obtain rfl : r = r₁ := Option.some.inj (hr.symm.trans hr₁)
        have hpath : e.scriptPath r.request = pathOf settings r.request.id r.request.language := by
          rw [scriptPath, hsettings, pathOf]
        rw [noteWork, hm.noteChanges hr]
        intro before after hmem place hne
        rcases List.mem_cons.1 hmem with hnew | hold
        · obtain ⟨rfl, rfl⟩ := Prod.mk.inj hnew
          exact hm.at?_of_ne (hpath ▸ hne)
        · exact hw.touched before after hold place hne
    · rw [noteWork, noteChanges_of_ne fun m hm => hadvance ⟨m, hm⟩]
      exact hw.touched

private theorem works_of_prepared {e₀ : Engine} {r₀ : Run} {script : Script} {interpreter : Text}
    {w : Watch} (hr₀ : e₀.runs[n]? = some r₀) (hbegin : r₀.phase = .prepared script interpreter)
    (h : Observed (noteWork n r₀.request) e₀ .start e w) :
    Works e₀.settings n r₀.request script e w := by
  refine h.invariant ⟨rfl, ⟨r₀, hr₀, rfl, fun _ => ?_⟩, by simp [Watch.start]⟩
    fun hw hstep => hw.step hstep
  rw [hbegin]
  exact ⟨rfl, rfl⟩

theorem Works.scriptPath {settings : Settings} {q : Request} {script : Script} {w : Watch}
    (h : Works settings n q script e w) (hr : e.runs[n]? = some r) :
    e.scriptPath r.request = pathOf settings q.id q.language ∧ (w.sole →
      Stands script w.rejected (e.files.content? (e.scriptPath r.request)) r.phase) := by
  obtain ⟨r', hr', rfl, hstands⟩ := h.run
  obtain rfl : r' = r := Option.some.inj (hr'.symm.trans hr)
  have hpath : e.scriptPath r'.request = pathOf settings r'.request.id r'.request.language := by
    rw [Engine.scriptPath, h.sameSettings, pathOf]
  exact ⟨hpath, by rwa [hpath]⟩

/-- A run that, since its script was made, has been the only one at work with its identifier and its
language finds its script as long as it needs it, whatever other runs do and whichever runs had the
identifier before. -/
theorem script_intact_of_sole {e₀ : Engine} {r₀ : Run} {script needed : Script} {interpreter : Text}
    {w : Watch} (hr₀ : e₀.runs[n]? = some r₀) (hbegin : r₀.phase = .prepared script interpreter)
    (h : Observed (noteWork n r₀.request) e₀ .start e w) (hsole : w.sole)
    (hr : e.runs[n]? = some r) (hneeds : Needs needed r.phase) :
    needed = script ∧ e.files.read (e.scriptPath r.request) = .ok needed.source := by
  have hstands := ((works_of_prepared hr₀ hbegin h).scriptPath hr).2 hsole
  obtain ⟨rfl, hcontent⟩ := hstands.of_needs hneeds
  exact ⟨rfl, Files.content?_eq_some_iff.1 hcontent⟩

def ready : Engine where
  settings := ⟨[], [], [], ['/', 't'], none, false⟩
  files := ⟨['/'], [([['t']], .directory)]⟩

private theorem ready_writeFault? : ready.files.writeFault? (ready.scriptPath ping) = none := by
  decide +kernel

def broken : Script :=
  ⟨.python, "print(".toList, []⟩

/-- An engine whose first run is over and whose second one, with the same identifier, is about to write
a script. -/
def reissued (s : Script) : Engine :=
  { ready with
    registry := ⟨[⟨ping.id, 1⟩], 2, []⟩
    runs := [⟨ping, ⟨ping.id, 0⟩, .over (.ok .cancelled)⟩, ⟨ping, ⟨ping.id, 1⟩, .prepared s []⟩] }

private theorem sole_of_over {x : Run} {answer : Answer} {registration : Registration} {q : Request}
    (h : e.runs = [⟨q, registration, .over answer⟩, x]) (q' : Request) : e.Sole 1 q' := by
  intro k r hk hr hid hl hwork
  match k with
  | 0 =>
    obtain rfl : _ = r := Option.some.inj (by simpa [h] using hr)
    exact hwork
  | 1 => exact hk rfl
  | k + 2 => simp [h] at hr

/-- A run finds its script though an earlier one had its identifier. -/
theorem script_intact_of_reuse :
    ∃ e r w, Observed (noteWork 1 ping) (reissued broken) .start e w ∧ w.sole ∧
      e.runs[1]? = some r ∧ r.phase = .running broken ∧
      e.files.read (e.scriptPath r.request) = .ok broken.source := by
  have hbegin : Observed (noteWork 1 ping) (reissued broken) .start _ _ := .refl
  have hwritten := hbegin.move (n := 1) rfl (.write rfl ready_writeFault?)
  have hrunning := hwritten.move (n := 1) rfl (.start rfl)
  have hsole : ∀ {e : Engine} {x : Run},
      e.runs = [⟨ping, ⟨ping.id, 0⟩, .over (.ok .cancelled)⟩, x] → e.Sole 1 ping :=
    fun h => sole_of_over h ping
  have hprepared : (reissued broken).runs[1]? = some ⟨ping, ⟨ping.id, 1⟩, .prepared broken []⟩ := rfl
  have hintact := script_intact_of_sole hprepared rfl hrunning ⟨⟨trivial, hsole rfl⟩, hsole rfl⟩
    (r := ⟨ping, ⟨ping.id, 1⟩, .running broken⟩) rfl (Or.inr rfl)
  exact ⟨_, _, _, hrunning, ⟨⟨trivial, hsole rfl⟩, hsole rfl⟩, rfl, rfl, hintact.2⟩

def underWay (s : Script) : Engine :=
  { ready with
    registry := (ready.registry.register ping.id).1
    files := ready.files.write (ready.scriptPath ping) s.source
    runs := [⟨ping, ⟨ping.id, 0⟩, .running s⟩] }

private theorem exists_run?_underWay : ∃ s, ready.run? [.submit ping, .advance 0 (.prepare []),
    .advance 0 (.write none), .advance 0 (.start none)] = some (underWay s) :=
  exists_run?_started rfl rfl ready_writeFault? []

/-- The engine after its first run was asked to stop and a second one with the same identifier has
come to run its script. -/
def takenOver (s s' : Script) : Engine :=
  { ready with
    registry := ((underWay s).registry.cancel ping.id).1.register ping.id |>.1
    files := (underWay s).files.write (ready.scriptPath ping) s'.source
    runs := (underWay s).runs ++ [⟨ping, ⟨ping.id, 1⟩, .running s'⟩] }

private theorem exists_run?_takenOver : ∃ s s', ready.run?
    ([.submit ping, .advance 0 (.prepare []), .advance 0 (.write none), .advance 0 (.start none),
        .cancel ping.id] ++
      [.submit ping, .advance 1 (.prepare []), .advance 1 (.write none), .advance 1 (.start none)]) =
    some (takenOver s s') := by
  obtain ⟨s, hfirst⟩ := exists_run?_underWay
  have hcancel : (underWay s).run? [.cancel ping.id] = some ((underWay s).cancel ping.id).1 := rfl
  have hcancelled := run?_append hfirst hcancel
  obtain ⟨s', hsecond⟩ := exists_run?_started (e := ((underWay s).cancel ping.id).1) (q := ping)
    rfl rfl (Files.writeFault?_write ready_writeFault? s.source) []
  have hnumber : ((underWay s).cancel ping.id).1.runs.length = 1 := rfl
  have hpath : ((underWay s).cancel ping.id).1.scriptPath ping = ready.scriptPath ping := by
    rw [scriptPath, scriptPath]
    rfl
  rw [hnumber, hpath] at hsecond
  exact ⟨s, s', run?_append hcancelled hsecond⟩

/-- A run that has been cancelled removes the script of the run that has taken its identifier. -/
theorem exists_removed_script :
    ∃ e r script, ready.run?
        ([.submit ping, .advance 0 (.prepare []), .advance 0 (.write none), .advance 0 (.start none),
            .cancel ping.id] ++
          [.submit ping, .advance 1 (.prepare []), .advance 1 (.write none),
            .advance 1 (.start none)] ++
          [.advance 0 .stop, .advance 0 .clean]) = some e ∧
      e.runs[1]? = some r ∧ r.phase = .running script ∧
      ∀ content, e.files.read (e.scriptPath r.request) ≠ .ok content := by
  obtain ⟨s, s', htaken⟩ := exists_run?_takenOver
  have hstop : (takenOver s s').run? [.advance 0 .stop, .advance 0 .clean] = some
      { takenOver s s' with
        runs := [⟨ping, ⟨ping.id, 0⟩, .leaving (.ok .cancelled)⟩, ⟨ping, ⟨ping.id, 1⟩, .running s'⟩]
        files := (takenOver s s').files.removeFile (ready.scriptPath ping) } := by
    have hdecided := Moves.stop (e := takenOver s s') (r := ⟨ping, ⟨ping.id, 0⟩, .running s⟩) rfl rfl
    rw [run?_cons (hdecided.step? rfl), run?_cons ((Moves.clean
      (r := ⟨ping, ⟨ping.id, 0⟩, .decided .cancelled false⟩) rfl).step? rfl)]
    rfl
  refine ⟨_, ⟨ping, ⟨ping.id, 1⟩, .running s'⟩, s', run?_append htaken hstop, rfl, rfl, ?_⟩
  intro content hread
  have hsome := Files.content?_eq_some_iff.2 hread
  have hnone := (takenOver s s').files.content?_removeFile (ready.scriptPath ping)
  exact Option.some_ne_none content (hsome.symm.trans hnone)

/-- When the work on a run is done on which it was the only one with its identifier and its language,
its script file is gone, unless the interpreter has turned the script down; then the file holds the
script. At no other place has the run changed anything. -/
theorem script_left_iff_rejected {e₀ : Engine} {r₀ : Run} {script : Script} {interpreter : Text}
    {w : Watch} (hr₀ : e₀.runs[n]? = some r₀) (hbegin : r₀.phase = .prepared script interpreter)
    (h : Observed (noteWork n r₀.request) e₀ .start e w) (hsole : w.sole)
    (hr : e.runs[n]? = some r) (hdone : HasReturned r.phase) :
    (w.rejected = true → e.files.read (e.scriptPath r.request) = .ok script.source) ∧
      (w.rejected = false → e.files.isFile (e.scriptPath r.request) = false) ∧
      ∀ before after, (before, after) ∈ w.changes → ∀ place,
        before.place (e.scriptPath r.request) ≠ .ok place → after.at? place = before.at? place := by
  have hworks := works_of_prepared hr₀ hbegin h
  obtain ⟨hpath, hstands⟩ := hworks.scriptPath hr
  have hleft := (hstands hsole).of_hasReturned hdone
  refine ⟨fun hrejected => ?_, fun hrejected => ?_, ?_⟩
  · rw [hrejected, if_pos rfl] at hleft
    exact Files.content?_eq_some_iff.1 hleft
  · rw [hrejected, if_neg Bool.false_ne_true] at hleft
    rw [Files.isFile_eq_isSome_content?, hleft, Option.isSome_none]
  · rw [hpath]
    exact hworks.touched

def refusal : Remains :=
  ⟨[], "SyntaxError: never closed".toList, some 1, none, 0⟩

def commissioned (s : Script) : Engine :=
  { ready with
    registry := (ready.registry.register ping.id).1
    runs := [⟨ping, ⟨ping.id, 0⟩, .prepared s []⟩] }

private theorem sole_of_runs_eq {x : Run} (h : e.runs = [x]) (q : Request) : e.Sole 0 q := by
  intro k r hk hr
  obtain ⟨k, rfl⟩ := Nat.exists_eq_succ_of_ne_zero hk
  simp [h] at hr

private theorem exists_observed_refusal :
    ∃ e r w, Observed (noteWork 0 ping) (commissioned broken) .start e w ∧ w.sole ∧
      e.runs[0]? = some r ∧ HasReturned r.phase ∧ w.rejected = true := by
  have hbegin : Observed (noteWork 0 ping) (commissioned broken) .start _ _ := .refl
  have hwritten := hbegin.move (n := 0) rfl (.write rfl ready_writeFault?)
  have hrunning := hwritten.move (n := 0) rfl (.start rfl)
  have hended := hrunning.move (n := 0) rfl (.close refusal rfl)
  have hdecided := hended.move (n := 0) rfl (.decide rfl)
  have hdone := hdecided.move (n := 0) rfl (.clean rfl)
  have hsole : ∀ {e : Engine} {x : Run}, e.runs = [x] → e.Sole 0 ping :=
    fun h => sole_of_runs_eq h ping
  have hrejected : turnsDown (commissioned broken) ⟨ping, ⟨ping.id, 0⟩, .ended broken refusal⟩ =
      true := by
    decide +kernel
  exact ⟨_, _, _, hdone, ⟨⟨⟨⟨⟨trivial, hsole rfl⟩, hsole rfl⟩, hsole rfl⟩, hsole rfl⟩, hsole rfl⟩, rfl,
    trivial, hrejected⟩

/-- A script that is turned down is kept. -/
theorem script_left_of_refusal :
    ∃ e r w, Observed (noteWork 0 ping) (commissioned broken) .start e w ∧ w.sole ∧
      e.runs[0]? = some r ∧ HasReturned r.phase ∧ w.rejected = true ∧
      e.files.read (e.scriptPath r.request) = .ok broken.source := by
  obtain ⟨e, r, w, hwatch, hsole, hr, hdone, hrejected⟩ := exists_observed_refusal
  have hbegin : (commissioned broken).runs[0]? = some ⟨ping, ⟨ping.id, 0⟩, .prepared broken []⟩ := rfl
  have hkept := (script_left_iff_rejected hbegin rfl hwatch hsole hr hdone).1 hrejected
  exact ⟨e, r, w, hwatch, hsole, hr, hdone, hrejected, hkept⟩

end Scratchpad.Engine
