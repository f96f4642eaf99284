import Scratchpad.Pattern

/-!
Reading a text against a pattern decides whether the pattern stands for the text
(`Pattern.accepts_iff`). The residuals of a pattern stand for what may follow a first character
(`Pattern.exists_mem_residuals_iff`).
-/

set_option autoImplicit false
set_option relaxedAutoImplicit false

namespace Scratchpad

namespace CharSet

private theorem has_span_self_iff {d c : Char} : (CharRange.span d d).has c = true ↔ c = d := by
  rw [CharRange.has, Bool.and_eq_true, decide_eq_true_eq, decide_eq_true_eq]
  exact ⟨fun h => Char.le_antisymm h.2 h.1, fun h => h ▸ ⟨Char.le_refl c, Char.le_refl c⟩⟩

theorem has_of_iff {t : Text} {c : Char} : (of t).has c = true ↔ c ∈ t := by
  induction t with
  | nil => simp [of, has]
  | cons d t ih =>
    simp only [of, has, List.map_cons, List.any_cons, bne_iff_ne, ne_eq, Bool.not_eq_false,
      Bool.or_eq_true, has_span_self_iff, List.mem_cons] at ih ⊢
    rw [ih]

theorem has_except_iff {t : Text} {c : Char} : (except t).has c = true ↔ c ∉ t := by
  rw [← has_of_iff]
  simp [except, of, has]

end CharSet

namespace Pattern

variable {p q : Pattern} {c : Char} {t : Text}

private theorem matches_empty_iff : Matches .empty t ↔ t = [] :=
  ⟨fun h => by cases h; rfl, fun h => h ▸ .empty⟩

theorem matches_one_iff {s : CharSet} : Matches (.one s) t ↔ ∃ c, s.has c = true ∧ t = [c] := by
  constructor
  · rintro (_ | hc)
    exact ⟨_, hc, rfl⟩
  · rintro ⟨c, hc, rfl⟩
    exact .one hc

theorem matches_seq_iff : Matches (.seq p q) t ↔ ∃ u v, t = u ++ v ∧ Matches p u ∧ Matches q v := by
  constructor
  · rintro (_ | _ | ⟨hp, hq⟩)
    exact ⟨_, _, rfl, hp, hq⟩
  · rintro ⟨u, v, rfl, hp, hq⟩
    exact .seq hp hq

theorem matches_alt_iff : Matches (.alt p q) t ↔ Matches p t ∨ Matches q t := by
  constructor
  · rintro (_ | _ | _ | hp | hq)
    · exact Or.inl hp
    · exact Or.inr hq
  · rintro (hp | hq)
    · exact .left hp
    · exact .right hq

theorem nullable_iff : p.nullable = true ↔ Matches p [] := by
  induction p with
  | empty => simp [nullable, matches_empty_iff]
  | one s => simp [nullable, matches_one_iff]
  | seq p q ihp ihq =>
    rw [nullable, Bool.and_eq_true, ihp, ihq, matches_seq_iff]
    constructor
    · rintro ⟨hp, hq⟩
      exact ⟨[], [], rfl, hp, hq⟩
    · rintro ⟨u, v, huv, hp, hq⟩
      obtain ⟨rfl, rfl⟩ := List.append_eq_nil_iff.1 huv.symm
      exact ⟨hp, hq⟩
  | alt p q ihp ihq => rw [nullable, Bool.or_eq_true, ihp, ihq, matches_alt_iff]
  | star p _ => exact ⟨fun _ => .none, fun _ => rfl⟩

private theorem matches_followedBy_iff : Matches (followedBy p q) t ↔ Matches (.seq p q) t := by
  cases p with
  | empty =>
    rw [followedBy, matches_seq_iff]
    constructor
    · exact fun h => ⟨[], t, rfl, .empty, h⟩
    · rintro ⟨u, v, rfl, hu, hv⟩
      rwa [matches_empty_iff.1 hu]
  | one => rfl
  | seq => rfl
  | alt => rfl
  | star => rfl

private theorem matches_star_cons_iff :
    Matches (.star p) (c :: t) ↔ ∃ u v, t = u ++ v ∧ Matches p (c :: u) ∧ Matches (.star p) v := by
  constructor
  · intro h
    generalize hq : Pattern.star p = q at h
    generalize ht : c :: t = s at h
    -- empty texts in front are passed over
    induction h with
    | empty => cases hq
    | one => cases hq
    | seq => cases hq
    | left => cases hq
    | right => cases hq
    | none => cases ht
    | @more p' u v hu hv _ ih =>
      obtain rfl : p = p' := Pattern.star.inj hq
      cases u with
      | nil => exact ih hq ht
      | cons a u =>
        obtain ⟨rfl, rfl⟩ := List.cons.inj ht
        exact ⟨u, v, rfl, hu, hv⟩
  · rintro ⟨u, v, rfl, hp, hstar⟩
    exact .more hp hstar

private theorem exists_mem_map_followedBy_iff
    (h : ∀ {u : Text}, (∃ r ∈ residuals p c, Matches r u) ↔ Matches p (c :: u)) :
    (∃ r ∈ (residuals p c).map (followedBy · q), Matches r t) ↔
      ∃ u v, t = u ++ v ∧ Matches p (c :: u) ∧ Matches q v := by
  constructor
  · rintro ⟨s, hs, hmatches⟩
    obtain ⟨r, hr, rfl⟩ := List.mem_map.1 hs
    obtain ⟨u, v, rfl, hu, hv⟩ := matches_seq_iff.1 (matches_followedBy_iff.1 hmatches)
    exact ⟨u, v, rfl, h.1 ⟨r, hr, hu⟩, hv⟩
  · rintro ⟨u, v, rfl, hu, hv⟩
    obtain ⟨r, hr, hru⟩ := h.2 hu
    exact ⟨followedBy r q, List.mem_map_of_mem hr, matches_followedBy_iff.2 (.seq hru hv)⟩

private theorem exists_mem_residuals_iff :
    (∃ r ∈ residuals p c, Matches r t) ↔ Matches p (c :: t) := by
  induction p generalizing t with
  | empty => simp [residuals, matches_empty_iff]
  | one s =>
    have hone : Matches (.one s) (c :: t) ↔ s.has c = true ∧ t = [] := by
      rw [matches_one_iff]
      constructor
      · rintro ⟨d, hd, hdt⟩
        obtain ⟨rfl, rfl⟩ := List.cons.inj hdt
        exact ⟨hd, rfl⟩
      · rintro ⟨hc, rfl⟩
        exact ⟨c, hc, rfl⟩
    rw [residuals, hone]
    cases s.has c <;> simp [matches_empty_iff]
  | seq p q ihp ihq =>
    have hfirst := exists_mem_map_followedBy_iff (t := t) (q := q) @ihp
    -- The character may belong to the second part only if the first can be empty.
    have hsecond : (∃ r ∈ (if nullable p then residuals q c else []), Matches r t) ↔
        Matches p [] ∧ Matches q (c :: t) := by
      rw [← nullable_iff, ← ihq]
      cases nullable p <;> simp
    simp only [residuals, List.mem_append, or_and_right, exists_or]
    rw [hfirst, hsecond, matches_seq_iff]
    constructor
    · rintro (⟨u, v, rfl, hp, hq⟩ | ⟨hp, hq⟩)
      · exact ⟨c :: u, v, rfl, hp, hq⟩
      · exact ⟨[], c :: t, rfl, hp, hq⟩
    · rintro ⟨u, v, huv, hp, hq⟩
      cases u with
      | nil =>
        obtain rfl : c :: t = v := huv
        exact Or.inr ⟨hp, hq⟩
      | cons a u =>
        obtain ⟨rfl, rfl⟩ := List.cons.inj huv
        exact Or.inl ⟨u, v, rfl, hp, hq⟩
  | alt p q ihp ihq =>
    simp only [residuals, List.mem_append, or_and_right, exists_or]
    rw [ihp, ihq, matches_alt_iff]
  | star p ih => rw [residuals, exists_mem_map_followedBy_iff @ih, matches_star_cons_iff]

private theorem exists_mem_foldl_advance_iff {ps : List Pattern} :
    (∃ r ∈ t.foldl advance ps, Matches r []) ↔ ∃ p ∈ ps, Matches p t := by
  induction t generalizing ps with
  | nil => rfl
  | cons c t ih =>
    rw [List.foldl_cons, ih]
    simp only [advance, List.mem_eraseDups, List.mem_flatMap]
    constructor
    · rintro ⟨r, ⟨p, hp, hr⟩, ht⟩
      exact ⟨p, hp, exists_mem_residuals_iff.1 ⟨r, hr, ht⟩⟩
    · rintro ⟨p, hp, hpt⟩
      obtain ⟨r, hr, ht⟩ := exists_mem_residuals_iff.2 hpt
      exact ⟨r, ⟨p, hp, hr⟩, ht⟩

/-- A text is accepted exactly if the pattern stands for it. -/
theorem accepts_iff : p.accepts t = true ↔ Matches p t := by
  rw [accepts, List.any_eq_true]
  simp only [nullable_iff, exists_mem_foldl_advance_iff, List.mem_singleton, exists_eq_left]

theorem matches_word_iff {w : Text} : Matches (word w) t ↔ t = w := by
  induction w generalizing t with
  | nil => exact matches_empty_iff
  | cons c w ih =>
    have hone : Matches (.one (.of [c])) t ↔ t = [c] := by
      simp [matches_one_iff, CharSet.has_of_iff]
    cases w with
    | nil => exact hone
    | cons d w =>
      have hseq : Matches (word (c :: d :: w)) t ↔
          ∃ u v, t = u ++ v ∧ Matches (.one (.of [c])) u ∧ Matches (word (d :: w)) v :=
        matches_seq_iff
      simp [hseq, ih, matches_one_iff, CharSet.has_of_iff]

/-- Whether none of some characters belongs to any set of a pattern. -/
def avoids (cs : Text) : Pattern → Bool
  | .empty => true
  | .one s => cs.all fun c => !s.has c
  | .seq p q => avoids cs p && avoids cs q
  | .alt p q => avoids cs p && avoids cs q
  | .star p => avoids cs p

theorem Matches.notMem_of_avoids {cs : Text} (ht : Matches p t) (hp : p.avoids cs = true) :
    ∀ c ∈ t, c ∉ cs := by
  induction ht with
  | empty => simp
  | @one s c hc =>
    intro d hd hmem
    obtain rfl := List.mem_singleton.1 hd
    have hs := List.all_eq_true.1 hp d hmem
    rw [hc] at hs
    cases hs
  | seq _ _ ihp ihq =>
    rw [avoids, Bool.and_eq_true] at hp
    exact List.forall_mem_append.2 ⟨ihp hp.1, ihq hp.2⟩
  | left _ ih =>
    rw [avoids, Bool.and_eq_true] at hp
    exact ih hp.1
  | right _ ih =>
    rw [avoids, Bool.and_eq_true] at hp
    exact ih hp.2
  | none => simp
  | more _ _ ih ihstar => exact List.forall_mem_append.2 ⟨ih hp, ihstar hp⟩

end Pattern

end Scratchpad
