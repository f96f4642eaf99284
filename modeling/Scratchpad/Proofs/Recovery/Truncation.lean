import Scratchpad.Proofs.Recovery.Framing
import Scratchpad.Proofs.Recovery.Nesting
import Scratchpad.Proofs.Report.WellFormed

/-!
A report that is cut off. Behind an opening mark and a line break there is no frame without another
line break, and the compact text of a report holds none. So a report that is cut off is never
framed; what the recovery takes for a report are the outermost objects that are complete before the
cut (`Recovery.recover_cut_report`).
-/

set_option autoImplicit false
set_option relaxedAutoImplicit false

namespace Scratchpad

namespace Frame

private theorem count_lineFeed_of_mem_lineBreaks {brk : Text} (h : brk ∈ lineBreaks) :
    brk.count '\n' = 1 := by
  simp only [lineBreaks, List.mem_cons, List.not_mem_nil, or_false] at h
  rcases h with rfl | rfl <;> decide

private theorem reportAfter?_eq_none {f : Frame} {rest : Text} (h : rest.count '\n' ≤ 1) :
    f.reportAfter? rest = none := by
  unfold reportAfter?
  cases hb : afterBreak? rest with
  | none => rfl
  | some u =>
    obtain ⟨brk, hbrk, rfl⟩ := afterBreak?_eq_some hb
    rw [List.count_append, count_lineFeed_of_mem_lineBreaks hbrk] at h
    have hu : '\n' ∉ u := List.count_eq_zero.1 (by omega)
    simp only [Option.bind_eq_bind, Option.bind_some, beforeLine?]
    split
    · rfl
    · rw [Text.cut?_eq_none_of_notMem hu]
      rfl

private theorem report?_eq_none {f : Frame} {stdout : Text} (h : stdout.count '\n' ≤ 1) :
    f.report? stdout = none := by
  apply report?_eq_none_of_forall
  rintro before rest rfl
  rw [List.count_append, List.count_append] at h
  exact reportAfter?_eq_none (by omega)

end Frame

namespace Recovery

open Json (Tree)

private theorem embedded?_cut {before t : Text} {ms : List (Text × Tree)}
    (hbefore : '\x7b' ∉ before) (hms : (Tree.object ms).WellFormed)
    (hcut : t <+: (Tree.object ms).compact) (hne : t ≠ (Tree.object ms).compact) :
    embedded? (before ++ t) =
      ((Tree.object ms).completeIn t.length).findSome? fun o => embeddedReport? o.compact := by
  have hlt : t.length < (Tree.object ms).compact.length :=
    lt_of_le_of_ne hcut.length_le fun h => hne (hcut.eq_of_length h)
  cases hms with
  | object hkey hvalue =>
  cases t with
  | nil =>
    rw [List.append_nil, embedded?, Braces.groups, Braces.run_outside hbefore, List.length_nil,
      Tree.completeIn]
    rfl
  | cons c t =>
    have hcompact : (Tree.object ms).compact = '\x7b' :: Tree.compactMembers ms ++ ['\x7d'] := by
      rw [Tree.compact]
    rw [List.length_cons] at hlt ⊢
    rw [Tree.completeIn, if_neg (by omega)]
    rw [hcompact, List.cons_append] at hcut
    obtain ⟨rfl, htail⟩ := List.cons_prefix_cons.1 hcut
    have ht : t = (Tree.compactMembers ms).take t.length := by
      have hlen : t.length ≤ (Tree.compactMembers ms).length := by
        simp only [hcompact, List.cons_append, List.length_cons, List.length_append,
          List.length_nil] at hlt
        omega
      rw [← List.take_append_of_le_length hlen]
      exact List.prefix_iff_eq_take.1 htail
    have hready : Braces.Scan.Ready ⟨[before.length], [], .outside⟩
        (before ++ ['\x7b']).length := ⟨rfl, by simp, ⟨by simp, by simp⟩⟩
    have hfull : before ++ ['\x7b'] ++ (Tree.compactMembers ms).take t.length <+:
        before ++ '\x7b' :: t := by
      rw [← ht, List.append_assoc]
      exact List.prefix_rfl
    obtain ⟨gs, hgs, hrun, -⟩ := Braces.finds_compactMembers hkey
      (fun m hm => Braces.finds_compact (hvalue m hm)) _ _ _ _ hfull hready
    have hopen : Braces.run {} 0 (before ++ ['\x7b']) = ⟨[before.length], [], .outside⟩ := by
      rw [Braces.run_append, Braces.run_outside hbefore, Nat.zero_add]
      rfl
    have hgroups : Braces.groups (before ++ '\x7b' :: t) = gs.reverse := by
      have hsplit : before ++ '\x7b' :: t = before ++ ['\x7b'] ++ t := by simp
      rw [Braces.groups, hsplit, Braces.run_append, hopen, Nat.zero_add, ht, hrun,
        List.append_nil]
    have hmap := congrArg (List.findSome? embeddedReport?) hgs.texts
    rw [List.findSome?_map, List.findSome?_map] at hmap
    rw [embedded?, hgroups]
    exact hmap

/-- What is recovered from a report that is cut off: the first outermost object before the cut that
can be taken for a report, or else the plain output. -/
theorem recover_cut_report (l : Language) (r : Report) {t : Text} (hcut : t <+: r.toTree.compact)
    (hne : t ≠ r.toTree.compact) (stderr : Text) :
    recover l.frame (l.frame.opening ++ '\n' :: t) stderr =
      match (r.toTree.completeIn t.length).findSome? fun o => embeddedReport? o.compact with
      | some found => (found, .embedded)
      | none => plain (l.frame.opening ++ '\n' :: t) (Text.trim stderr) := by
  have hline : '\n' ∉ t := fun hc => by
    have hctl := r.wellFormed_toTree.not_isControl _ (hcut.subset hc)
    exact absurd hctl (by decide)
  have hcount : (l.frame.opening ++ '\n' :: t).count '\n' ≤ 1 := by
    rw [List.count_append, List.count_eq_zero.2 l.frame_isSound.opening_unbroken,
      List.count_cons_self, List.count_eq_zero.2 hline]
  have hbraces : '\x7b' ∉ l.frame.opening ++ ['\n'] := by cases l <;> decide
  have hembedded := embedded?_cut hbraces r.wellFormed_toTree hcut hne
  rw [List.append_assoc, List.singleton_append] at hembedded
  have hopening : Text.occurs l.frame.opening (l.frame.opening ++ '\n' :: t) = true :=
    Text.occurs_iff.2 (List.prefix_append _ _).isInfix
  rw [recover, Frame.report?_eq_none hcount]
  simp only [hopening, if_true, hembedded]
  rfl

private theorem plain_ne (stdout err : Text) :
    (plain stdout err).2 ≠ .framed ∧ (plain stdout err).2 ≠ .embedded := by
  unfold plain
  split <;> exact ⟨by simp, by simp⟩

/-- A report that is cut off is never framed, and it is not mistaken for a whole report exactly when
no outermost object before the cut can be taken for one. -/
theorem recover_cut_report_ne_iff (l : Language) (r : Report) {t : Text}
    (hcut : t <+: r.toTree.compact) (hne : t ≠ r.toTree.compact) (stderr : Text) :
    (recover l.frame (l.frame.opening ++ '\n' :: t) stderr).2 ≠ .framed ∧
      ((recover l.frame (l.frame.opening ++ '\n' :: t) stderr).2 ≠ .embedded ↔
        ∀ o ∈ r.toTree.completeIn t.length, embeddedReport? o.compact = none) := by
  rw [recover_cut_report l r hcut hne, ← List.findSome?_eq_none_iff]
  cases (r.toTree.completeIn t.length).findSome? fun o => embeddedReport? o.compact with
  | none => simpa using plain_ne _ _
  | some found => simp

def withReading : Report :=
  { probes := [⟨1, ['x'], some (.number (.int 41)), none⟩] }

/-- The report is cut off in its reading, where no object is complete yet. -/
theorem recover_cut_report_in_reading :
    (recover Language.python.frame
        (Language.python.frame.opening ++ '\n' :: withReading.toTree.compact.take 60) []).2 ≠
        .framed ∧
      ((recover Language.python.frame
          (Language.python.frame.opening ++ '\n' :: withReading.toTree.compact.take 60) []).2 ≠
          .embedded ↔
        ∀ o ∈ withReading.toTree.completeIn (withReading.toTree.compact.take 60).length,
          embeddedReport? o.compact = none) :=
  recover_cut_report_ne_iff .python withReading (List.take_prefix _ _) (by decide +kernel) []

/-- The report is cut off behind its reading, which is taken for the whole report. -/
theorem recover_cut_report_mistakes_reading :
    ∃ t : Text, t <+: withReading.toTree.compact ∧ t ≠ withReading.toTree.compact ∧
      (recover Language.python.frame (Language.python.frame.opening ++ '\n' :: t) []).2 =
        .embedded :=
  ⟨withReading.toTree.compact.take 75, List.take_prefix _ _, by decide +kernel, by decide +kernel⟩

end Recovery

end Scratchpad
