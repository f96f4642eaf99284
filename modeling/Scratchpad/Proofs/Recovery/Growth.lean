import Scratchpad.Proofs.Recovery.Ladder

/-!
Output that grows. Once a report has been found in its frame, nothing that comes behind it can change
what is recovered. Whatever the search passes over stands before the frame, so that the closing mark
that it looks for is already there: a longer text neither moves this mark nor makes a report of what
was none (`IsSound.reportAfter?_append_right`).
-/

set_option autoImplicit false
set_option relaxedAutoImplicit false

namespace Scratchpad

namespace Frame

private theorem afterBreak?_append_right {t : Text} (h : 2 ≤ t.length) (u : Text) :
    afterBreak? (t ++ u) = (afterBreak? t).map (· ++ u) := by
  match t, h with
  | c :: d :: t, _ =>
    by_cases hfeed : c = '\n'
    · subst hfeed
      rfl
    · by_cases hbreak : c = '\r' ∧ d = '\n'
      · obtain ⟨rfl, rfl⟩ := hbreak
        rfl
      · have hnone : ∀ s : Text, afterBreak? (c :: d :: s) = none := by
          intro s
          unfold afterBreak?
          split
          · next heq => exact absurd (List.cons.inj heq).1 hfeed
          · next heq =>
            have hd := (List.cons.inj (List.cons.inj heq).2).1
            exact absurd ⟨(List.cons.inj heq).1, hd⟩ hbreak
          · rfl
        rw [List.cons_append, List.cons_append, hnone, hnone, Option.map_none]

private theorem length_le_of_beforeLine? {w t a : Text} (h : beforeLine? w t = some a) :
    w.length ≤ t.length := by
  rcases beforeLine?_eq_some h with hp | ⟨b, rfl⟩
  · exact hp.length_le
  · simp only [List.length_append]
    omega

private theorem beforeLine?_append_right {w t a : Text} (h : beforeLine? w t = some a) (u : Text) :
    beforeLine? w (t ++ u) = some a := by
  have hstart := Text.startsWith_append_right (length_le_of_beforeLine? h) u
  unfold beforeLine? at h ⊢
  rw [hstart]
  split at h
  · next hs => rw [if_pos hs, h]
  · next hs =>
    obtain ⟨⟨a', b⟩, hcut, rfl⟩ := Option.map_eq_some_iff.1 h
    rw [if_neg hs, Text.cut?_append_right hcut, Option.map_some]

private theorem isSome_beforeLine?_of_isInfix {w t : Text} (h : ('\n' :: w) <:+: t) :
    (beforeLine? w t).isSome = true := by
  unfold beforeLine?
  split
  · rfl
  · rw [Option.isSome_map, Text.cut?, Option.isSome_map]
    exact Text.occurs_iff.2 h

private theorem searchFrom_eq_drop (f : Frame) (skip : Nat) (t : Text) :
    f.searchFrom skip t = f.searchFrom 0 (t.drop skip) := by
  induction t generalizing skip with
  | nil => cases skip <;> rfl
  | cons c t ih =>
    cases skip with
    | zero => rfl
    | succ k => rw [searchFrom, ih, List.drop_succ_cons]

private theorem reportAfter?_append_right {f : Frame} {rest : Text} (hlen : 2 ≤ rest.length)
    (hclosed : ∀ body, afterBreak? rest = some body → (beforeLine? f.closing body).isSome = true)
    (u : Text) : f.reportAfter? (rest ++ u) = f.reportAfter? rest := by
  unfold reportAfter?
  rw [afterBreak?_append_right hlen]
  cases hb : afterBreak? rest with
  | none => rfl
  | some body =>
    obtain ⟨inner, hinner⟩ := Option.isSome_iff_exists.1 (hclosed body hb)
    simp only [Option.map_some, Option.bind_eq_bind, Option.bind_some, hinner,
      beforeLine?_append_right hinner]

namespace IsSound

variable {f : Frame} (hf : f.IsSound)

include hf

private theorem two_le_length_opening : 2 ≤ f.opening.length := by
  obtain ⟨w, hw, -⟩ := hf.opening_bracket
  obtain ⟨v, hv⟩ := hf.closing_bracket
  cases w with
  | cons c w => simp [hw]
  | nil => exact absurd ⟨v, by rw [hw, hv]; rfl⟩ hf.closing_ne.2

/-- Before a framed report every frame is closed, at the latest where that report ends. -/
theorem reportAfter?_append_of_searchFrom {rest : Text} {r : Report}
    (h : f.searchFrom 0 rest = some r) (u : Text) :
    f.reportAfter? (rest ++ u) = f.reportAfter? rest := by
  obtain ⟨before, rest', rfl, hr⟩ := exists_of_searchFrom h
  apply reportAfter?_append_right
  · have hlen := hf.two_le_length_opening
    simp only [List.length_append]
    omega
  · intro body hbody
    obtain ⟨noise, rfl, -⟩ := hf.exists_of_afterBreak? hbody
    have hclosing := lineFeed_closing_isInfix hr
    have hsuffix : rest' <:+ noise ++ (f.opening ++ rest') :=
      (List.suffix_append _ _).trans (List.suffix_append _ _)
    exact isSome_beforeLine?_of_isInfix (hclosing.trans hsuffix.isInfix)

private theorem reportAfter?_append_of_eq_some {rest : Text} {r : Report}
    (h : f.reportAfter? rest = some r) (u : Text) : f.reportAfter? (rest ++ u) = some r := by
  obtain ⟨brk, hbrk, body, inner, rfl, hinner⟩ := exists_of_reportAfter? h
  have hbody : ∀ body', afterBreak? (brk ++ body) = some body' →
      (beforeLine? f.closing body').isSome = true := by
    intro body' hbody'
    rw [afterBreak?_append hbrk, Option.some.injEq] at hbody'
    rw [← hbody', hinner, Option.isSome_some]
  have hlen : 2 ≤ (brk ++ body).length := by
    obtain ⟨v, hv⟩ := hf.closing_bracket
    have hclosing := (lineFeed_closing_isInfix h).length_le
    rw [hv] at hclosing
    simp only [List.length_cons] at hclosing
    omega
  rw [reportAfter?_append_right hlen hbody, h]

private theorem searchFrom_append_right {skip : Nat} {t : Text} {r : Report}
    (h : f.searchFrom skip t = some r) (u : Text) : f.searchFrom skip (t ++ u) = some r := by
  induction t generalizing skip with
  | nil => cases skip <;> cases h
  | cons c t ih =>
    cases skip with
    | succ k => exact ih h
    | zero =>
      have hlen : f.opening.length ≤ (c :: t).length := by
        obtain ⟨before, rest, he, -⟩ := exists_of_searchFrom h
        rw [he]
        simp only [List.length_append]
        omega
      have hafter := Text.after?_append_right hlen u
      rw [List.cons_append] at hafter ⊢
      rw [searchFrom] at h ⊢
      rw [hafter]
      cases ha : Text.after? f.opening (c :: t) with
      | none =>
        simp only [ha] at h
        exact ih h
      | some rest =>
        simp only [ha, Option.map_some] at h ⊢
        cases hr : f.reportAfter? rest with
        | some r' =>
          simp only [hr, Option.some.injEq] at h
          rw [hf.reportAfter?_append_of_eq_some hr, h]
        | none =>
          simp only [hr] at h
          -- the search goes on behind the mark just read, and finds the report there
          have hrest : rest = t.drop (f.opening.length - 1) := by
            obtain ⟨o, w, hw⟩ := List.exists_cons_of_ne_nil hf.opening_solid.ne_nil
            have he := Text.after?_eq_some_iff.1 ha
            rw [hw, List.cons_append, List.cons.injEq] at he
            rw [hw, List.length_cons, Nat.add_sub_cancel, he.2, List.drop_left]
          have hfound : f.searchFrom 0 rest = some r := by
            rw [hrest, ← searchFrom_eq_drop, h]
          rw [hf.reportAfter?_append_of_searchFrom hfound, hr]
          exact ih h

end IsSound

end Frame

namespace Recovery

/-- A framed report is final: it is recovered whatever else is put out behind it and on standard
error. -/
theorem recover_append_of_framed (l : Language) {stdout stderr : Text} {r : Report}
    (h : recover l.frame stdout stderr = (r, .framed)) (behind stderr' : Text) :
    recover l.frame (stdout ++ behind) stderr' = (r, .framed) := by
  rw [recover_eq_framed_iff] at h ⊢
  exact l.frame_isSound.searchFrom_append_right h behind

def strayThenFrame : Text :=
  Language.python.frame.opening ++ "\n?\n".toList ++ Language.python.frame.opening ++
    "\r\n\x7b\"output\":[\x7b\"kind\":\"log\",\"text\":\"1\"\x7d]\x7d\n".toList ++
    Language.python.frame.closing

/-- A second frame is put out behind the first. -/
theorem recover_append_second_frame :
    ∃ r : Report, r.output = [⟨.log, ['1']⟩] ∧
      recover Language.python.frame strayThenFrame ['?'] = (r, .framed) ∧
      recover Language.python.frame
        (strayThenFrame ++ ('\n' :: (Language.python.frame.opening ++ "\n\x7b\x7d\n".toList ++
          Language.python.frame.closing))) ['!'] = (r, .framed) := by
  have hframed : recover Language.python.frame strayThenFrame ['?'] =
      ((recover Language.python.frame strayThenFrame ['?']).1, .framed) :=
    Prod.ext rfl (by decide +kernel)
  exact ⟨_, by decide +kernel, hframed, recover_append_of_framed .python hframed _ ['!']⟩

end Recovery

end Scratchpad
