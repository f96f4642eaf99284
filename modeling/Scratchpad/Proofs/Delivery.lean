import Scratchpad.Delivery
import Scratchpad.Proofs.Report.Reconcile
import Scratchpad.Proofs.Text.Search

/-!
What is delivered, in terms of what was recovered. A run that was asked to stop delivers nothing. For
all others `Delivery.Completes` says what becomes of the recovered report: output and value stay, the
statistics are those of the run, every requested line has its reading, and the error is the one that
was reported, or that the time was up (`deliver_completes`).
-/

set_option autoImplicit false
set_option relaxedAutoImplicit false

namespace Scratchpad

namespace Delivery

/-- The report of a run is what was recovered, completed by what is known about the run. -/
structure Completes (probes : List Probe) (remains : Remains) (recovered : Report) (how : Recovery)
    (report : Report) : Prop where
  output : report.output = recovered.output
  value : report.value = recovered.value
  stats : report.stats = some ⟨remains.nanoseconds, remains.exitCode⟩
  increasing : report.probes.Pairwise (·.line < ·.line)
  once : ∀ p ∈ probes, (report.probes.map (·.line)).count p.line = 1
  inTime : remains.timedOut = none → report.error = recovered.error
  late : ∀ limit, remains.timedOut = some limit →
    report.error = some ((if how = .framed ∨ how = .embedded then recovered.error else none).getD
      ⟨"Execution timed out after ".toList ++ Nat.toDigits 10 limit ++ "ms".toList, none⟩)

private theorem errorOf_late (r : Report) (how : Recovery) (limit : Nat) :
    errorOf r how (some limit) = some
      ((if how = .framed ∨ how = .embedded then r.error else none).getD
        (.ofMessage (timeoutMessage limit))) := by
  cases herror : r.error with
  | none => simp [errorOf, herror]
  | some e => cases how <;> simp [errorOf, isReported, herror]

private theorem isRejected_iff {l : Language} {how : Recovery} {stderr : Text} :
    isRejected l how stderr = true ↔ how ≠ .framed ∧ ∃ m ∈ l.fatalMarkers, m <:+: stderr := by
  simp only [isRejected, Bool.and_eq_true, decide_eq_true_eq, List.any_eq_true, Text.occurs_iff]

end Delivery

open Delivery

/-- A run that was asked to stop is cancelled, whatever it left behind. Any other run delivers what
was recovered, completed by what is known about the run, and its script is kept exactly if no framed
report was found and standard error holds a mark of a rejected script. -/
theorem deliver_completes (l : Language) (probes : List Probe) (remains : Remains) :
    deliver l probes remains true = (.cancelled, false) ∧
      ∃ report keep, deliver l probes remains false = (.finished report, keep) ∧
        Completes probes remains (Recovery.recover l.frame remains.stdout remains.stderr).1
          (Recovery.recover l.frame remains.stdout remains.stderr).2 report ∧
        (keep = true ↔ (Recovery.recover l.frame remains.stdout remains.stderr).2 ≠ .framed ∧
          ∃ m ∈ l.fatalMarkers, m <:+: remains.stderr) := by
  rcases hrecover : Recovery.recover l.frame remains.stdout remains.stderr with ⟨r, how⟩
  have hdeliver : deliver l probes remains false =
      (.finished { r with
        error := errorOf r how remains.timedOut
        probes := Reading.reconcile probes r.probes
        stats := some ⟨remains.nanoseconds, remains.exitCode⟩ },
        isRejected l how remains.stderr) := by
    rw [deliver, hrecover]
    rfl
  have hcompletes : Completes probes remains r how { r with
      error := errorOf r how remains.timedOut
      probes := Reading.reconcile probes r.probes
      stats := some ⟨remains.nanoseconds, remains.exitCode⟩ } := by
    refine ⟨rfl, rfl, rfl, Reading.pairwise_reconcile _ _, ?_, ?_, ?_⟩
    · intro p hp
      exact Reading.count_lines_reconcile _ _ hp
    · intro hnone
      rw [hnone]
      rfl
    · intro limit hsome
      rw [hsome]
      exact errorOf_late r how limit
  exact ⟨rfl, _, _, hdeliver, hcompletes, isRejected_iff⟩

end Scratchpad
