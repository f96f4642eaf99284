import Scratchpad.Proofs.Recovery.Agreement
import Scratchpad.Proofs.Recovery.Ladder
import Scratchpad.Proofs.Text.Line

/-!
A report that has lost its frame. Before the first opening brace the scan stands outside of any pair,
the report is found as one pair, and what comes behind it closes no pair that opens before it
(`Scan.Behind`): the report is the first of the outermost pairs. Without a line that starts with the
closing mark no frame comes before it (`Recovery.recover_between`).
-/

set_option autoImplicit false
set_option relaxedAutoImplicit false

namespace Scratchpad

namespace Braces

/-- A range is the first that the scan has found, and no open pair reaches back before it. -/
structure Scan.Behind (s : Scan) (g : Nat × Nat) : Prop where
  opens : ∀ o ∈ s.opens, g.1 ≤ o
  groups : ∃ later, s.groups = later ++ [g]

private theorem exists_close_append {later : List (Nat × Nat)} {g : Nat × Nat} {opened : Nat}
    (h : g.1 ≤ opened) (closed : Nat) :
    ∃ later', close (later ++ [g]) opened closed = later' ++ [g] := by
  have hkept : [g].dropWhile (fun g => opened < g.1) = [g] := by
    simp [Nat.not_lt.2 h]
  rw [close, List.dropWhile_append]
  split
  · exact ⟨[(opened, closed + 1)], by rw [hkept, List.singleton_append]⟩
  · exact ⟨(opened, closed + 1) :: _, List.cons_append.symm⟩

theorem Scan.Behind.step {s : Scan} {g : Nat × Nat} (h : s.Behind g) {n : Nat} (hn : g.1 ≤ n)
    (c : Char) : (Braces.step s n c).Behind g := by
  obtain ⟨q, hstep⟩ | hstep | ⟨o, os, heq, hstep⟩ := step_cases s n c
  · rw [hstep]
    exact ⟨h.opens, h.groups⟩
  · rw [hstep]
    exact ⟨List.forall_mem_cons.2 ⟨hn, h.opens⟩, h.groups⟩
  · have hopens := h.opens
    rw [heq, List.forall_mem_cons] at hopens
    obtain ⟨later, hlater⟩ := h.groups
    rw [hstep, hlater]
    exact ⟨hopens.2, exists_close_append hopens.1 n⟩

theorem Scan.Behind.run {s : Scan} {g : Nat × Nat} (h : s.Behind g) {n : Nat} (hn : g.1 ≤ n)
    (t : Text) : (Braces.run s n t).Behind g := by
  induction t generalizing s n with
  | nil => exact h
  | cons c t ih => exact ih (h.step hn c) (Nat.le_succ_of_le hn)

private theorem exists_groups_eq_cons {before o t : Text} {tree : Json.Tree}
    (hbefore : '\x7b' ∉ before)
    (ho : o = '\x7b' :: (t ++ ['\x7d'])) (hread : Json.Tree.read? o = some tree) (behind : Text) :
    ∃ later, groups (before ++ (o ++ behind)) =
      (before.length, before.length + o.length) :: later := by
  have hobject : run {} before.length o =
      { groups := [(before.length, before.length + o.length)] } := by
    subst ho
    exact run_object hread before.length
  have hbehind : Scan.Behind { groups := [(before.length, before.length + o.length)] }
      (before.length, before.length + o.length) := ⟨by simp, [], rfl⟩
  obtain ⟨later, hlater⟩ :=
    (hbehind.run (Nat.le_add_right before.length o.length) behind).groups
  refine ⟨later.reverse, ?_⟩
  rw [groups, run_append, run_outside hbefore, Nat.zero_add, run_append, hobject, hlater,
    List.reverse_append, List.reverse_singleton, List.singleton_append]

end Braces

private theorem Frame.report?_eq_none_of_unclosed {f : Frame} (hf : f.IsSound) {stdout : Text}
    (h : ∀ line ∈ Text.pieces stdout, ¬ f.closing <+: line) : f.report? stdout = none := by
  apply report?_eq_none_of_forall
  rintro before rest rfl
  by_contra hne
  obtain ⟨r, hr⟩ := Option.ne_none_iff_exists'.1 hne
  have hsuffix : rest <:+ before ++ (f.opening ++ rest) :=
    (List.suffix_append _ rest).trans (List.suffix_append _ _)
  have hinfix : ('\n' :: f.closing) <:+: before ++ (f.opening ++ rest) :=
    (lineFeed_closing_isInfix hr).trans hsuffix.isInfix
  obtain ⟨line, hline, hclosing⟩ := Text.exists_piece_of_isInfix hf.closing_unbroken.1 hinfix
  exact h line hline hclosing

namespace Recovery

private theorem embeddedReport?_eq_some_iff {o : Text} {r : Report} :
    embeddedReport? o = some r ↔ ∃ members, Json.Value.read? o = some (.object members) ∧
      (∃ k ∈ reportKeys, ∃ m ∈ members, m.1 = k) ∧
      Report.ofValue? (.object members) = some r := by
  have hany : ∀ members : List (Text × Json.Value),
      (reportKeys.any fun k => members.any fun m => m.1 = k) = true ↔
        ∃ k ∈ reportKeys, ∃ m ∈ members, m.1 = k := by
    intro members
    simp only [List.any_eq_true, decide_eq_true_eq]
  constructor
  · intro h
    obtain ⟨v, hread, h⟩ := Option.bind_eq_some_iff.1 h
    cases v with
    | object members =>
      dsimp only at h
      split_ifs at h with hkey
      exact ⟨members, hread, (hany members).1 hkey, h⟩
    | _ => cases h
  · rintro ⟨members, hread, hkey, hreport⟩
    simp only [embeddedReport?, hread, Option.bind_eq_bind, Option.bind_some, (hany members).2 hkey,
      if_true, hreport]

private theorem embedded?_between {before o t : Text} {r : Report} (hbefore : '\x7b' ∉ before)
    (ho : o = '\x7b' :: (t ++ ['\x7d'])) (hreport : embeddedReport? o = some r) (behind : Text) :
    embedded? (before ++ (o ++ behind)) = some r := by
  obtain ⟨members, hread, -⟩ := embeddedReport?_eq_some_iff.1 hreport
  obtain ⟨tree, htree, -⟩ := Option.bind_eq_some_iff.1 hread
  obtain ⟨later, hgroups⟩ := Braces.exists_groups_eq_cons hbefore ho htree behind
  have hslice : Braces.slice (before ++ (o ++ behind)) (before.length, before.length + o.length) =
      o := by
    apply Braces.slice_of_isPrefix
    rw [← List.append_assoc]
    exact List.prefix_append _ _
  rw [embedded?, hgroups, List.findSome?_cons, hslice, hreport]

private theorem exists_of_ends {o : Text} {a b : Char} (hab : a ≠ b) (hhead : o.head? = some a)
    (hlast : o.getLast? = some b) : ∃ t, o = a :: (t ++ [b]) := by
  obtain ⟨u, rfl⟩ := List.getLast?_eq_some_iff.1 hlast
  cases u with
  | nil => exact absurd (Option.some.inj hhead).symm hab
  | cons c u =>
    obtain rfl := Option.some.inj hhead
    exact ⟨u, rfl⟩

/-- A report is recovered as it is from between any other output, even if its frame is lost: the
opening mark is somewhere, no line starts with the closing mark, and no brace is opened before the
report. -/
theorem recover_between (l : Language) {before o : Text} {members : List (Text × Json.Value)}
    {r : Report} (hbefore : '\x7b' ∉ before) (hopen : o.head? = some '\x7b')
    (hclose : o.getLast? = some '\x7d') (hread : Json.Value.read? o = some (.object members))
    (hkey : ∃ k ∈ reportKeys, ∃ m ∈ members, m.1 = k)
    (hreport : Report.ofValue? (.object members) = some r) (behind stderr : Text)
    (hopening : l.frame.opening <:+: before ++ o ++ behind)
    (hclosing : ∀ line ∈ Text.pieces (before ++ o ++ behind), ¬ l.frame.closing <+: line) :
    recover l.frame (before ++ o ++ behind) stderr = (r, .embedded) := by
  have hunframed := Frame.report?_eq_none_of_unclosed l.frame_isSound hclosing
  have hembedded := embeddedReport?_eq_some_iff.2 ⟨members, hread, hkey, hreport⟩
  obtain ⟨t, ho⟩ := exists_of_ends (by decide) hopen hclose
  rw [List.append_assoc] at hopening hunframed ⊢
  rw [recover, hunframed]
  simp only [Text.occurs_iff.2 hopening, if_true, embedded?_between hbefore ho hembedded]

def spacedReport : Text :=
  ("\x7b \"probes\" : [\x7b\"line\":1,\"expression\":\"f('\x7b')\",\"value\":\x7b\"a\":[\x7b\x7d]\x7d\x7d],\n" ++
    "  \"output\":[\x7b\"kind\":\"log\",\"text\":\"\\\"\x7d\"\x7d] \x7d").toList

/-- A quote and a closing brace stand before the report; a quote, an opening brace and the closing mark
stand behind it. -/
theorem recover_between_quotes :
    ∃ r : Report, r.output = [⟨.log, ['"', '\x7d']⟩] ∧
      recover Language.python.frame
        (("\"\x7d".toList ++ Language.python.frame.opening ++ ['\n']) ++ spacedReport ++
          ("\"\x7b\n ".toList ++ Language.python.frame.closing)) ['!'] = (r, .embedded) := by
  have houtput : (embeddedReport? spacedReport).map Report.output =
      some [⟨.log, ['"', '\x7d']⟩] := by decide +kernel
  obtain ⟨r, hembedded, houtput⟩ := Option.map_eq_some_iff.1 houtput
  obtain ⟨members, hread, hkey, hreport⟩ := embeddedReport?_eq_some_iff.1 hembedded
  exact ⟨r, houtput, recover_between .python (by decide) (by decide) (by decide +kernel) hread hkey
    hreport _ ['!'] (by decide +kernel) (by decide +kernel)⟩

end Recovery

end Scratchpad
