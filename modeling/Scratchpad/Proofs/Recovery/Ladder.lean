import Scratchpad.Proofs.Recovery.Framing

/-!
The rungs of the ladder. Each rung is reached only past those above it, so that the rung tells what
the streams are like (`Rung`), and where no report is read, the report that is made up says nothing
but what the streams say (`recover_ladder`).
-/

set_option autoImplicit false
set_option relaxedAutoImplicit false

namespace Scratchpad.Recovery

/-- The rung on which the report of two streams is found, and what it takes to get there. -/
inductive Rung (frame : Frame) (stdout stderr : Text) : Report → Recovery → Prop
  | framed {r : Report} (hreport : frame.report? stdout = some r) :
      Rung frame stdout stderr r .framed
  | stderr (hreport : frame.report? stdout = none) (hopening : ¬ frame.opening <:+: stdout)
      (herr : Text.trim stderr ≠ []) :
      Rung frame stdout stderr (.ofError (Text.trim stderr)) .stderr
  | embedded {r : Report} (hreport : frame.report? stdout = none)
      (hopening : frame.opening <:+: stdout) (hembedded : embedded? stdout = some r) :
      Rung frame stdout stderr r .embedded
  | raw (hreport : frame.report? stdout = none)
      (hpast : frame.opening <:+: stdout ∨ Text.trim stderr = [])
      (hblank : ¬ ∀ c ∈ stdout, Text.isBlank c = true) :
      Rung frame stdout stderr
        { output := [.ofText (trimLineEnds stdout)]
          error := if Text.trim stderr = [] then none else some (.ofMessage (Text.trim stderr)) }
        .raw
  | empty (hreport : frame.report? stdout = none)
      (hpast : frame.opening <:+: stdout ∨ Text.trim stderr = [])
      (hblank : ∀ c ∈ stdout, Text.isBlank c = true) :
      Rung frame stdout stderr (.ofError nothingLeft) .empty

variable {frame : Frame} {stdout stderr : Text} {r : Report} {how : Recovery}

private theorem rung_plain (hreport : frame.report? stdout = none)
    (hpast : frame.opening <:+: stdout ∨ Text.trim stderr = []) :
    Rung frame stdout stderr (plain stdout (Text.trim stderr)).1
      (plain stdout (Text.trim stderr)).2 := by
  unfold plain Text.isAllBlank
  by_cases hblank : ∀ c ∈ stdout, Text.isBlank c = true
  · rw [if_pos (List.all_eq_true.2 hblank)]
    exact .empty hreport hpast hblank
  · rw [if_neg fun hall => hblank (List.all_eq_true.1 hall)]
    simp only [List.isEmpty_iff]
    exact .raw hreport hpast hblank

private theorem recover_rung (frame : Frame) (stdout stderr : Text) :
    Rung frame stdout stderr (recover frame stdout stderr).1 (recover frame stdout stderr).2 := by
  unfold recover
  cases hreport : frame.report? stdout with
  | some r => exact .framed hreport
  | none =>
    dsimp only
    by_cases hopening : frame.opening <:+: stdout
    · rw [if_pos (Text.occurs_iff.2 hopening)]
      cases hembedded : embedded? stdout with
      | some r => exact .embedded hreport hopening hembedded
      | none => exact rung_plain hreport (Or.inl hopening)
    · rw [if_neg fun h => hopening (Text.occurs_iff.1 h)]
      by_cases herr : Text.trim stderr = []
      · rw [if_pos (List.isEmpty_iff.2 herr)]
        exact rung_plain hreport (Or.inr herr)
      · rw [if_neg fun h => herr (List.isEmpty_iff.1 h)]
        exact .stderr hreport hopening herr

theorem recover_eq_framed_iff :
    recover frame stdout stderr = (r, .framed) ↔ frame.report? stdout = some r := by
  constructor
  · intro h
    have hrung := recover_rung frame stdout stderr
    rw [h] at hrung
    cases hrung with
    | framed hreport => exact hreport
  · intro h
    rw [recover, h]

def fallbacks : List Recovery :=
  [.stderr, .raw, .empty]

namespace Rung

private theorem of_unmarked (h : Rung frame stdout stderr r how)
    (hopening : ¬ frame.opening <:+: stdout) :
    how ∈ fallbacks ∧ r.value = none ∧ r.probes = [] ∧ r.stats = none := by
  cases h with
  | framed hreport =>
    rw [Frame.report?_eq_none_of_unmarked hopening] at hreport
    cases hreport
  | stderr => exact ⟨by simp [fallbacks], rfl, rfl, rfl⟩
  | embedded _ hmarked => exact absurd hmarked hopening
  | raw => exact ⟨by simp [fallbacks], rfl, rfl, rfl⟩
  | empty => exact ⟨by simp [fallbacks], rfl, rfl, rfl⟩

private theorem eq_empty_iff (h : Rung frame stdout stderr r how) (hsolid : frame.opening.IsSolid) :
    how = .empty ↔
      (∀ c ∈ stdout, Text.isBlank c = true) ∧ ∀ c ∈ stderr, Text.isBlank c = true := by
  rw [← Text.trim_eq_nil_iff (t := stderr)]
  cases h with
  | framed hreport =>
    simp only [reduceCtorEq, false_iff, not_and]
    intro hblank
    rw [Frame.report?_eq_none_of_unmarked (hsolid.not_isInfix hblank)] at hreport
    cases hreport
  | stderr _ _ herr => simp [herr]
  | embedded _ hopening =>
    simp only [reduceCtorEq, false_iff, not_and]
    intro hblank
    exact absurd hopening (hsolid.not_isInfix hblank)
  | raw _ _ hblank => simp [hblank]
  | empty _ hpast hblank =>
    have herr := hpast.resolve_left (hsolid.not_isInfix hblank)
    exact ⟨fun _ => ⟨hblank, herr⟩, fun _ => rfl⟩

private theorem tells (h : Rung frame stdout stderr r how) (hsolid : frame.opening.IsSolid)
    (hhow : how ∈ fallbacks) :
    (r.error ≠ none ∨ r.output ≠ []) ∧
      ((¬ ∀ c ∈ stderr, Text.isBlank c = true) →
        r.error.map Fault.message = some (Text.trim stderr)) := by
  rw [← Text.trim_eq_nil_iff]
  cases h with
  | framed => simp [fallbacks] at hhow
  | stderr => exact ⟨Or.inl (by simp [Report.ofError]), fun _ => rfl⟩
  | embedded => simp [fallbacks] at hhow
  | raw =>
    refine ⟨Or.inr (by simp), fun herr => ?_⟩
    rw [if_neg herr]
    rfl
  | empty _ hpast hblank =>
    refine ⟨Or.inl (by simp [Report.ofError]), fun herr => ?_⟩
    exact absurd (hpast.resolve_left (hsolid.not_isInfix hblank)) herr

private theorem eq_raw (h : Rung frame stdout stderr r how) (hhow : how = .raw) :
    ∃ text ends, r.output = [⟨.log, text⟩] ∧ stdout = text ++ ends ∧
      (∀ c ∈ ends, c = '\r' ∨ c = '\n') ∧ ∀ c ∈ text.getLast?, c ≠ '\r' ∧ c ≠ '\n' := by
  cases h with
  | framed => cases hhow
  | stderr => cases hhow
  | embedded => cases hhow
  | empty => cases hhow
  | raw =>
    obtain ⟨ends, hends, hstdout, hlast⟩ :=
      Text.exists_trimEndWhile_append (fun c => c == '\r' || c == '\n') stdout
    refine ⟨trimLineEnds stdout, ends, rfl, hstdout, fun c hc => ?_, fun c hc => ?_⟩
    · simpa using hends c hc
    · simpa using hlast c hc

private theorem eq_stderr_iff (h : Rung frame stdout stderr r how) :
    how = .stderr ↔ frame.report? stdout = none ∧ (¬ ∀ c ∈ stderr, Text.isBlank c = true) ∧
      ¬ frame.opening <:+: stdout := by
  rw [← Text.trim_eq_nil_iff]
  cases h with
  | framed hreport => simp [hreport]
  | stderr hreport hopening herr => simp [hreport, hopening, herr]
  | embedded _ hopening => simp [hopening]
  | raw _ hpast => rcases hpast with hopening | herr <;> simp [*]
  | empty _ hpast => rcases hpast with hopening | herr <;> simp [*]

end Rung

/-- What the rung says about the streams and the report. Without an opening mark nothing is read as a
report (1). Nothing is found exactly if both streams are blank (2). A report that is made up holds
an error or output, and standard error, if it is not blank, as its error (3); plain output is standard
output without the line ends at its end (4). Standard error alone is reported exactly if it is not
blank and standard output holds neither a framed report nor an opening mark (5). -/
theorem recover_ladder (l : Language) (stdout stderr : Text) :
    (¬ l.frame.opening <:+: stdout →
      (recover l.frame stdout stderr).2 ∈ fallbacks ∧
        (recover l.frame stdout stderr).1.value = none ∧
        (recover l.frame stdout stderr).1.probes = [] ∧
        (recover l.frame stdout stderr).1.stats = none) ∧
    ((recover l.frame stdout stderr).2 = .empty ↔
      (∀ c ∈ stdout, Text.isBlank c = true) ∧ ∀ c ∈ stderr, Text.isBlank c = true) ∧
    ((recover l.frame stdout stderr).2 ∈ fallbacks →
      ((recover l.frame stdout stderr).1.error ≠ none ∨
          (recover l.frame stdout stderr).1.output ≠ []) ∧
        ((¬ ∀ c ∈ stderr, Text.isBlank c = true) →
          (recover l.frame stdout stderr).1.error.map Fault.message = some (Text.trim stderr))) ∧
    ((recover l.frame stdout stderr).2 = .raw →
      ∃ text ends, (recover l.frame stdout stderr).1.output = [⟨.log, text⟩] ∧
        stdout = text ++ ends ∧ (∀ c ∈ ends, c = '\r' ∨ c = '\n') ∧
        ∀ c ∈ text.getLast?, c ≠ '\r' ∧ c ≠ '\n') ∧
    ((recover l.frame stdout stderr).2 = .stderr ↔
      l.frame.report? stdout = none ∧ (¬ ∀ c ∈ stderr, Text.isBlank c = true) ∧
        ¬ l.frame.opening <:+: stdout) := by
  have hrung := recover_rung l.frame stdout stderr
  have hsolid := l.frame_isSound.opening_solid
  exact ⟨hrung.of_unmarked, hrung.eq_empty_iff hsolid, hrung.tells hsolid, hrung.eq_raw,
    hrung.eq_stderr_iff⟩

end Scratchpad.Recovery
