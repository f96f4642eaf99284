import Scratchpad.Proofs.Json.Unreadable
import Scratchpad.Proofs.Text.Search
import Scratchpad.Proofs.Text.Trim
import Scratchpad.Conventions
import Scratchpad.Recovery

/-!
A framed report comes through, whatever stands before and behind its frame. Opening marks in the
noise before it make the search try texts that reach into the frame; each of these holds the true
opening mark with a line break behind it, so that it cannot be read as a report. Hence the search
comes to the true opening mark, and the nearest closing mark at the start of a line is the true one.
-/

set_option autoImplicit false
set_option relaxedAutoImplicit false

namespace Scratchpad

namespace Frame

def lineBreaks : List Text :=
  [['\n'], ['\r', '\n']]

/-- What the marks of a frame need so that they cannot be taken for anything else. -/
structure IsSound (f : Frame) : Prop where
  opening_solid : Text.IsSolid f.opening
  opening_bracket : ∃ w, f.opening = '<' :: w ∧ '"' ∉ w ∧ '\\' ∉ w
  opening_unbroken : '\n' ∉ f.opening
  closing_bracket : ∃ w, f.closing = '<' :: w
  closing_unbroken : '\n' ∉ f.closing ∧ '\r' ∉ f.closing
  opening_apart : Text.Apart f.opening f.opening
  closing_apart : Text.Apart f.closing f.opening
  closing_ne : ¬ f.closing <+: f.opening ∧ ¬ f.opening <+: f.closing

theorem afterBreak?_append {brk : Text} (h : brk ∈ lineBreaks) (t : Text) :
    afterBreak? (brk ++ t) = some t := by
  simp only [lineBreaks, List.mem_cons, List.not_mem_nil, or_false] at h
  rcases h with rfl | rfl <;> rfl

theorem afterBreak?_eq_some {t u : Text} (h : afterBreak? t = some u) :
    ∃ brk ∈ lineBreaks, t = brk ++ u := by
  unfold afterBreak? at h
  split at h
  · exact ⟨['\n'], by simp [lineBreaks], by simpa using h⟩
  · exact ⟨['\r', '\n'], by simp [lineBreaks], by simpa using h⟩
  · simp at h

private theorem isControl_of_mem_lineBreaks {brk : Text} (h : brk ∈ lineBreaks) :
    ∀ c ∈ brk, Json.isControl c = true := by
  simp only [lineBreaks, List.mem_cons, List.not_mem_nil, or_false] at h
  rcases h with rfl | rfl <;> simp [Json.isControl]

private theorem ne_nil_of_mem_lineBreaks {brk : Text} (h : brk ∈ lineBreaks) : brk ≠ [] := by
  rintro rfl
  simp [lineBreaks] at h

theorem beforeLine?_eq_some {w t a : Text} (h : beforeLine? w t = some a) :
    w <+: t ∨ ∃ b, t = a ++ ['\n'] ++ (w ++ b) := by
  unfold beforeLine? at h
  split at h
  · next hs => exact Or.inl (Text.startsWith_iff.1 hs)
  · obtain ⟨⟨a', b⟩, hc, rfl⟩ := Option.map_eq_some_iff.1 h
    exact Or.inr ⟨b, by simpa using Text.cut?_eq_some hc⟩

namespace IsSound

variable {f : Frame} (hf : f.IsSound)

include hf

private theorem not_closing_isPrefix {noise : Text} (hn : ¬ f.closing <:+: noise) (t : Text) :
    ¬ f.closing <+: noise ++ (f.opening ++ t) := by
  intro h
  by_cases he : noise = []
  · subst he
    rcases List.prefix_or_prefix_of_prefix h (List.prefix_append f.opening t) with hp | hp
    · exact hf.closing_ne.1 hp
    · exact hf.closing_ne.2 hp
  · exact hn (hf.closing_apart.prefix_append he h).isInfix

private theorem not_isPrefix_noise {noise inner t b : Text} (hn : ¬ f.closing <:+: noise)
    (h : noise ++ (f.opening ++ t) = inner ++ ['\n'] ++ (f.closing ++ b)) :
    ¬ inner ++ ['\n'] <+: noise := by
  rintro ⟨e, rfl⟩
  rw [List.append_assoc (inner ++ ['\n'])] at h
  have he : e ++ (f.opening ++ t) = f.closing ++ b := List.append_cancel_left h
  have hne : ¬ f.closing <:+: e := fun hi => hn (hi.trans (List.suffix_append _ e).isInfix)
  exact hf.not_closing_isPrefix hne t (he ▸ List.prefix_append _ _)

private theorem opening_isPrefix {noise inner t b : Text} (hn : ¬ f.closing <:+: noise)
    (h : noise ++ (f.opening ++ t) = inner ++ ['\n'] ++ (f.closing ++ b)) :
    noise ++ f.opening <+: inner := by
  have hz : inner ++ ['\n'] <+: noise ++ (f.opening ++ t) := h ▸ List.prefix_append _ _
  rcases List.prefix_or_prefix_of_prefix hz (List.prefix_append noise _) with hp | ⟨e, he⟩
  · exact absurd hp (hf.not_isPrefix_noise hn h)
  · have hne : e ≠ [] := by
      rintro rfl
      rw [List.append_nil] at he
      exact hf.not_isPrefix_noise hn h (he ▸ List.prefix_rfl)
    -- the line feed before the closing mark is the end of `e`, and the opening mark holds none
    have hlast : '\n' ∈ e := by
      have hl := congrArg List.getLast? he
      rw [List.getLast?_append_of_ne_nil _ hne, List.getLast?_concat] at hl
      exact List.mem_of_getLast? hl
    have hpe : e <+: f.opening ++ t := by
      rw [← he] at hz
      exact (List.prefix_append_right_inj noise).1 hz
    rcases List.prefix_or_prefix_of_prefix hpe (List.prefix_append f.opening t) with hq | ⟨d, rfl⟩
    · exact absurd (hq.subset hlast) hf.opening_unbroken
    · have hd : d ≠ [] := by
        rintro rfl
        rw [List.append_nil] at hlast
        exact hf.opening_unbroken hlast
      rw [← List.append_assoc] at he
      have hdrop := congrArg List.dropLast he
      rw [List.dropLast_append_of_ne_nil hd, List.dropLast_concat] at hdrop
      exact hdrop ▸ List.prefix_append _ _

theorem exists_of_afterBreak? {noise t u : Text}
    (h : afterBreak? (noise ++ (f.opening ++ t)) = some u) :
    ∃ rest, u = rest ++ (f.opening ++ t) ∧ rest <:+ noise := by
  obtain ⟨w, hw, -⟩ := hf.opening_bracket
  obtain ⟨brk, hb, he⟩ := afterBreak?_eq_some h
  simp only [lineBreaks, List.mem_cons, List.not_mem_nil, or_false] at hb
  rcases hb with rfl | rfl
  · cases noise with
    | nil => simp [hw] at he
    | cons c rest =>
      exact ⟨rest, (List.cons.inj he).2.symm, List.suffix_cons c rest⟩
  · match noise, he with
    | [], he => simp [hw] at he
    | [c], he => simp [hw] at he
    | c :: d :: rest, he =>
      exact ⟨rest, (List.cons.inj (List.cons.inj he).2).2.symm,
        (List.suffix_cons d rest).trans (List.suffix_cons c _)⟩

/-- Between a stray opening mark and the true closing one there is no report. -/
theorem reportAfter?_noise {noise brk : Text} (hn : ¬ f.closing <:+: noise)
    (hb : brk ∈ lineBreaks) (t : Text) :
    f.reportAfter? (noise ++ (f.opening ++ (brk ++ t))) = none := by
  by_contra hne
  obtain ⟨r, h⟩ := Option.ne_none_iff_exists'.1 hne
  simp only [reportAfter?, Option.bind_eq_bind, Option.bind_eq_some_iff] at h
  obtain ⟨u, hu, inner, hi, hr⟩ := h
  obtain ⟨rest, rfl, hrest⟩ := hf.exists_of_afterBreak? hu
  have hn' : ¬ f.closing <:+: rest := fun hc => hn (hc.trans hrest.isInfix)
  rcases beforeLine?_eq_some hi with hp | ⟨b, he⟩
  · exact hf.not_closing_isPrefix hn' _ hp
  · obtain ⟨y, rfl⟩ := hf.opening_isPrefix hn' he
    -- what follows the true opening mark starts with a line break, if there is anything
    have hy : y <+: brk ++ t := by
      simp only [List.append_assoc, List.append_cancel_left_eq] at he
      exact he ▸ List.prefix_append _ _
    rw [List.append_assoc, Text.trim_append_of_solid hf.opening_solid] at hr
    obtain ⟨w, hw, hquote, hescape⟩ := hf.opening_bracket
    have hq : ∀ c ∈ w, c ≠ '"' ∧ c ≠ '\\' := fun c hc =>
      ⟨ne_of_mem_of_not_mem hc hquote, ne_of_mem_of_not_mem hc hescape⟩
    have hctl : ∀ c ∈ (Text.trimEnd y).head?, Json.isControl c = true := by
      intro c hc
      obtain ⟨z, hz⟩ := (Text.trimEnd_isPrefix y).trans hy
      have hhead : c ∈ (brk ++ t).head? := by
        rw [← hz, List.head?_append, Option.mem_def.1 hc, Option.some_or]
        rfl
      rw [List.head?_append_of_ne_nil _ (ne_nil_of_mem_lineBreaks hb)] at hhead
      exact isControl_of_mem_lineBreaks hb c (List.mem_of_mem_head? hhead)
    rw [Report.read?, hw, Json.Tree.read?_eq_none_of_bracket hq hctl] at hr
    simp at hr

private theorem not_closing_isPrefix_body {body brk : Text} {r : Report} (hb : brk ∈ lineBreaks)
    (hread : Report.read? (Text.trim body) = some r) (t : Text) :
    ¬ f.closing <+: body ++ (brk ++ t) := by
  intro h
  have hbody : f.closing <+: body := by
    rcases List.prefix_or_prefix_of_prefix h (List.prefix_append body _) with hp | ⟨e, he⟩
    · exact hp
    · cases e with
      | nil => exact ⟨[], by rw [List.append_nil, ← he, List.append_nil]⟩
      | cons c e =>
        -- the closing mark would hold the first character of a line break
        rw [← he, List.prefix_append_right_inj] at h
        have hc : c ∈ f.closing := he ▸ by simp
        simp only [lineBreaks, List.mem_cons, List.not_mem_nil, or_false] at hb
        rcases hb with rfl | rfl <;> obtain ⟨rfl, -⟩ := List.cons_prefix_cons.1 h
        · exact absurd hc hf.closing_unbroken.1
        · exact absurd hc hf.closing_unbroken.2
  obtain ⟨w, hw⟩ := hf.closing_bracket
  obtain ⟨b, rfl⟩ := hbody
  obtain ⟨s, hs⟩ := Text.trim_cons_of_solid (c := '<') (by decide) (w ++ b)
  have hnone : Json.Tree.read? ('<' :: s) = none := rfl
  rw [hw, List.cons_append, hs, Report.read?, hnone] at hread
  simp at hread

private theorem reportAfter?_frame {brk₁ body brk₂ : Text} {r : Report} (h₁ : brk₁ ∈ lineBreaks)
    (h₂ : brk₂ ∈ lineBreaks) (hline : '\n' ∉ body)
    (hread : Report.read? (Text.trim body) = some r) (t : Text) :
    f.reportAfter? (brk₁ ++ (body ++ (brk₂ ++ (f.closing ++ t)))) = some r := by
  have hs : Text.startsWith f.closing (body ++ (brk₂ ++ (f.closing ++ t))) = false :=
    Text.startsWith_eq_false_iff.2 (hf.not_closing_isPrefix_body h₂ hread _)
  have hi : ∃ inner, beforeLine? f.closing (body ++ (brk₂ ++ (f.closing ++ t))) = some inner ∧
      Text.trim inner = Text.trim body := by
    simp only [beforeLine?, hs, Bool.false_eq_true, if_false]
    simp only [lineBreaks, List.mem_cons, List.not_mem_nil, or_false] at h₂
    rcases h₂ with rfl | rfl
    · exact ⟨body, by rw [List.singleton_append, ← List.cons_append, Text.cut?_append _ _ hline,
        Option.map_some], rfl⟩
    · have hcr : '\n' ∉ body ++ ['\r'] := by simp [hline]
      refine ⟨body ++ ['\r'], ?_, Text.trim_append_blank (by decide) body⟩
      have he : body ++ (['\r', '\n'] ++ (f.closing ++ t)) =
          (body ++ ['\r']) ++ ('\n' :: f.closing ++ t) := by simp
      rw [he, Text.cut?_append _ _ hcr, Option.map_some]
  obtain ⟨inner, hi, htrim⟩ := hi
  rw [reportAfter?, afterBreak?_append h₁]
  simp only [Option.bind_eq_bind, Option.bind_some, hi, htrim, hread]

end IsSound

theorem exists_of_searchFrom {f : Frame} {skip : Nat} {t : Text} {r : Report}
    (h : f.searchFrom skip t = some r) :
    ∃ before rest, t = before ++ (f.opening ++ rest) ∧ f.reportAfter? rest = some r := by
  induction t generalizing skip with
  | nil => cases skip <;> cases h
  | cons c t ih =>
    have hlater : ∀ k, f.searchFrom k t = some r →
        ∃ before rest, c :: t = before ++ (f.opening ++ rest) ∧ f.reportAfter? rest = some r := by
      intro k hk
      obtain ⟨before, rest, rfl, hr⟩ := ih hk
      exact ⟨c :: before, rest, rfl, hr⟩
    cases skip with
    | succ k => exact hlater k h
    | zero =>
      rw [searchFrom] at h
      cases ha : Text.after? f.opening (c :: t) with
      | none =>
        simp only [ha] at h
        exact hlater 0 h
      | some rest =>
        simp only [ha] at h
        cases hr : f.reportAfter? rest with
        | none =>
          simp only [hr] at h
          exact hlater _ h
        | some r' =>
          simp only [hr, Option.some.injEq] at h
          have he := Text.after?_eq_some_iff.1 ha
          exact ⟨[], rest, by rw [he, List.nil_append], by rw [hr, h]⟩

theorem exists_of_reportAfter? {f : Frame} {rest : Text} {r : Report}
    (h : f.reportAfter? rest = some r) :
    ∃ brk ∈ lineBreaks, ∃ body inner, rest = brk ++ body ∧
      beforeLine? f.closing body = some inner := by
  simp only [reportAfter?, Option.bind_eq_bind, Option.bind_eq_some_iff] at h
  obtain ⟨body, hbody, inner, hinner, -⟩ := h
  obtain ⟨brk, hbrk, hrest⟩ := afterBreak?_eq_some hbody
  exact ⟨brk, hbrk, body, inner, hrest, hinner⟩

theorem lineFeed_closing_isInfix {f : Frame} {rest : Text} {r : Report}
    (h : f.reportAfter? rest = some r) : ('\n' :: f.closing) <:+: rest := by
  obtain ⟨brk, hbrk, body, inner, rfl, hinner⟩ := exists_of_reportAfter? h
  rcases beforeLine?_eq_some hinner with ⟨b, rfl⟩ | ⟨b, rfl⟩
  · -- the line break behind the opening mark stands right before the closing mark
    obtain ⟨x, hx⟩ : ∃ x, brk = x ++ ['\n'] := by
      simp only [lineBreaks, List.mem_cons, List.not_mem_nil, or_false] at hbrk
      rcases hbrk with rfl | rfl
      · exact ⟨[], rfl⟩
      · exact ⟨['\r'], rfl⟩
    exact ⟨x, b, by simp [hx]⟩
  · exact ⟨brk ++ inner, b, by simp⟩

theorem report?_eq_none_of_forall {f : Frame} {stdout : Text}
    (h : ∀ before rest, stdout = before ++ (f.opening ++ rest) → f.reportAfter? rest = none) :
    f.report? stdout = none := by
  by_contra hne
  obtain ⟨r, hr⟩ := Option.ne_none_iff_exists'.1 hne
  obtain ⟨before, rest, he, hafter⟩ := exists_of_searchFrom hr
  rw [h before rest he] at hafter
  cases hafter

theorem report?_eq_none_of_unmarked {f : Frame} {stdout : Text} (h : ¬ f.opening <:+: stdout) :
    f.report? stdout = none := by
  apply report?_eq_none_of_forall
  rintro before rest rfl
  exact absurd ⟨before, rest, List.append_assoc ..⟩ h

private theorem searchFrom_append {f : Frame} {noise t : Text} {r : Report} (hne : f.opening ≠ [])
    (hap : Text.Apart f.opening f.opening) (hr : f.reportAfter? t = some r)
    (hnoise : ∀ a b, noise = a ++ f.opening ++ b → f.reportAfter? (b ++ (f.opening ++ t)) = none)
    {skip : Nat} (hskip : skip ≤ noise.length) :
    f.searchFrom skip (noise ++ (f.opening ++ t)) = some r := by
  induction noise generalizing skip with
  | nil =>
    obtain rfl : skip = 0 := Nat.le_zero.1 hskip
    obtain ⟨c, w, hw⟩ := List.exists_cons_of_ne_nil hne
    have ha : Text.after? f.opening (c :: (w ++ t)) = some t := by
      rw [Text.after?_eq_some_iff, hw, List.cons_append]
    rw [List.nil_append, hw, List.cons_append, searchFrom, ha]
    simp only [hr]
  | cons c noise ih =>
    have hnoise' : ∀ a b, noise = a ++ f.opening ++ b →
        f.reportAfter? (b ++ (f.opening ++ t)) = none := fun a b hab =>
      hnoise (c :: a) b (by rw [hab]; simp)
    cases skip with
    | succ k =>
      rw [List.cons_append, searchFrom]
      exact ih hnoise' (Nat.le_of_succ_le_succ hskip)
    | zero =>
      rw [List.cons_append, searchFrom]
      cases ha : Text.after? f.opening (c :: (noise ++ (f.opening ++ t))) with
      | none => exact ih hnoise' (Nat.zero_le _)
      | some rest =>
        have he := Text.after?_eq_some_iff.1 ha
        -- A marker that starts in the noise ends in it too, since no two markers overlap.
        have hp : f.opening <+: c :: noise :=
          hap.prefix_append (List.cons_ne_nil c noise) (he ▸ List.prefix_append _ _)
        obtain ⟨b, hb⟩ := hp
        have hrest : rest = b ++ (f.opening ++ t) := by
          rw [← List.cons_append, ← hb, List.append_assoc] at he
          exact (List.append_cancel_left he).symm
        have hlen : f.opening.length - 1 ≤ noise.length := by
          have hl := congrArg List.length hb
          simp only [List.length_append, List.length_cons] at hl
          omega
        simp only [hrest, hnoise [] b (by rw [← hb, List.nil_append])]
        exact ih hnoise' hlen

private theorem IsSound.report?_append {f : Frame} (hf : f.IsSound) {noise brk₁ body brk₂ : Text}
    {r : Report} (hn : ¬ f.closing <:+: noise) (h₁ : brk₁ ∈ lineBreaks) (h₂ : brk₂ ∈ lineBreaks)
    (hline : '\n' ∉ body) (hread : Report.read? (Text.trim body) = some r) (t : Text) :
    f.report? (noise ++ (f.opening ++ (brk₁ ++ (body ++ (brk₂ ++ (f.closing ++ t)))))) = some r := by
  refine searchFrom_append hf.opening_solid.ne_nil hf.opening_apart
    (hf.reportAfter?_frame h₁ h₂ hline hread t) (fun a b hab => ?_) (Nat.zero_le _)
  have hb : ¬ f.closing <:+: b := fun hc => hn (hc.trans (hab ▸ List.suffix_append _ b).isInfix)
  exact hf.reportAfter?_noise hb h₁ _

end Frame

theorem Language.frame_isSound (l : Language) : l.frame.IsSound := by
  cases l <;>
    exact {
      opening_solid :=
        ⟨by decide, fun c hc => by cases hc; decide, fun c hc => by cases hc; decide⟩
      opening_bracket := ⟨_, rfl, by decide, by decide⟩
      opening_unbroken := by decide
      closing_bracket := ⟨_, rfl⟩
      closing_unbroken := by decide
      opening_apart := by decide
      closing_apart := by decide
      closing_ne := by decide }

namespace Recovery

/-- A report between the marks of its frame is recovered as it is, whatever stands before the frame,
as long as that holds no closing mark, and whatever stands behind it. -/
theorem recover_framed_through_noise (l : Language) {noise brk₁ body brk₂ : Text} {r : Report}
    (hnoise : ¬ l.frame.closing <:+: noise) (h₁ : brk₁ ∈ Frame.lineBreaks)
    (h₂ : brk₂ ∈ Frame.lineBreaks) (hline : '\n' ∉ body)
    (hread : Report.read? (Text.trim body) = some r) (behind stderr : Text) :
    recover l.frame
      (noise ++ l.frame.opening ++ brk₁ ++ body ++ brk₂ ++ l.frame.closing ++ behind) stderr =
      (r, .framed) := by
  have h := l.frame_isSound.report?_append hnoise h₁ h₂ hline hread behind
  simp only [List.append_assoc, recover, h]

/-- The noise opens two frames, one of them inside quotes, and the report that is framed quotes the
closing mark. -/
theorem recover_framed_through_stray_marks :
    ∃ r : Report, r.output = [⟨.log, Language.python.frame.closing⟩] ∧
      recover Language.python.frame
        (("\"\x7b\n".toList ++ Language.python.frame.opening ++ ['\n', '"'] ++
            Language.python.frame.opening ++ ['\r']) ++
          Language.python.frame.opening ++ ['\r', '\n'] ++
          ("  \x7b\"output\":[\x7b\"kind\":\"log\",\"text\":\"".toList ++
            Language.python.frame.closing ++ "\"\x7d]\x7d".toList) ++
          ['\n'] ++ Language.python.frame.closing ++ ['\x7d']) ['!'] = (r, .framed) := by
  have hbody : (Report.read? (Text.trim
      ("  \x7b\"output\":[\x7b\"kind\":\"log\",\"text\":\"".toList ++
        Language.python.frame.closing ++ "\"\x7d]\x7d".toList))).map Report.output =
      some [⟨.log, Language.python.frame.closing⟩] := by decide +kernel
  obtain ⟨r, hread, houtput⟩ := Option.map_eq_some_iff.1 hbody
  exact ⟨r, houtput, recover_framed_through_noise .python (by decide +kernel) (by decide) (by decide)
    (by decide +kernel) hread ['\x7d'] ['!']⟩

end Recovery

end Scratchpad
