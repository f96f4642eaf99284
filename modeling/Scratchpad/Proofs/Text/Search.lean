import Mathlib.Data.List.Infix
import Scratchpad.Text.Blank

/-!
Searches in a text. `occurs_iff` says what it means to occur, and `cut?_eq_some` what a cut is made
of; `cut?_append` finds the cut when the first character of the word does not stand before it. Two
words are *apart* if no occurrence of the one can run into an occurrence of the other.
-/

set_option autoImplicit false
set_option relaxedAutoImplicit false

namespace Scratchpad.Text

theorem startsWith_eq_false_iff {w t : Text} : startsWith w t = false ↔ ¬ w <+: t := by
  rw [← startsWith_iff, Bool.not_eq_true]

private theorem seek?_eq_some {w t s : Text} (h : seek? w t = some s) :
    ∃ before, t = before ++ s ∧ w <+: s := by
  induction t with
  | nil =>
    by_cases hw : startsWith w [] = true
    · simp only [seek?, hw, if_true, Option.some.injEq] at h
      exact ⟨[], by simp [← h], by rw [← h]; exact startsWith_iff.1 hw⟩
    · simp [seek?, hw] at h
  | cons c t ih =>
    by_cases hw : startsWith w (c :: t) = true
    · simp only [seek?, hw, if_true, Option.some.injEq] at h
      exact ⟨[], by simp [← h], by rw [← h]; exact startsWith_iff.1 hw⟩
    · simp only [seek?, hw, if_false, Bool.false_eq_true] at h
      obtain ⟨before, hb, hs⟩ := ih h
      exact ⟨c :: before, by simp [hb], hs⟩

private theorem seek?_isSome_of_infix {w t : Text} (h : w <:+: t) : (seek? w t).isSome = true := by
  induction t with
  | nil =>
    have hw : w = [] := List.eq_nil_of_infix_nil h
    simp [seek?, startsWith, hw, after?]
  | cons c t ih =>
    by_cases hw : startsWith w (c :: t) = true
    · simp [seek?, hw]
    · have hp : ¬ w <+: c :: t := fun hp => hw (startsWith_iff.2 hp)
      have ht : w <:+: t := (List.infix_cons_iff.1 h).resolve_left hp
      simpa [seek?, hw] using ih ht

theorem occurs_iff {w t : Text} : occurs w t = true ↔ w <:+: t := by
  constructor
  · intro h
    obtain ⟨s, hs⟩ := Option.isSome_iff_exists.1 h
    obtain ⟨before, hb, r, hr⟩ := seek?_eq_some hs
    exact ⟨before, r, by rw [hb, ← hr, List.append_assoc]⟩
  · exact seek?_isSome_of_infix

private theorem occurs_eq_false_iff {w t : Text} : occurs w t = false ↔ ¬ w <:+: t := by
  rw [← occurs_iff, Bool.not_eq_true]

theorem cut?_eq_some {w t a b : Text} (h : cut? w t = some (a, b)) : t = a ++ w ++ b := by
  obtain ⟨s, hs, he⟩ := Option.map_eq_some_iff.1 h
  obtain ⟨before, hb, r, hr⟩ := seek?_eq_some hs
  have ha : a = before := by
    rw [← (Prod.mk.inj he).1, hb, List.length_append, Nat.add_sub_cancel, List.take_left]
  have hr' : b = r := by
    rw [← (Prod.mk.inj he).2, ← hr, List.drop_left]
  rw [hb, ha, hr', ← hr, List.append_assoc]

theorem cut?_eq_none_of_notMem {c : Char} {w t : Text} (h : c ∉ t) : cut? (c :: w) t = none := by
  have ho : ¬ (c :: w) <:+: t := fun hi => h (hi.subset (List.mem_cons_self ..))
  have hs : seek? (c :: w) t = none := by
    rw [← Option.not_isSome_iff_eq_none, Bool.not_eq_true]
    exact occurs_eq_false_iff.2 ho
  rw [cut?, hs, Option.map_none]

private theorem seek?_append_of_notMem {c : Char} {x : Text} (w t : Text) (h : c ∉ x) :
    seek? (c :: w) (x ++ t) = seek? (c :: w) t := by
  induction x with
  | nil => rfl
  | cons a x ih =>
    rw [List.mem_cons, not_or] at h
    have hs : startsWith (c :: w) (a :: (x ++ t)) = false := by
      simp [startsWith, after?, h.1]
    rw [List.cons_append, seek?, hs, if_neg Bool.false_ne_true, ih h.2]

private theorem seek?_self_append (c : Char) (w t : Text) :
    seek? (c :: w) (c :: w ++ t) = some (c :: w ++ t) := by
  have hs : startsWith (c :: w) (c :: (w ++ t)) = true :=
    startsWith_iff.2 (List.prefix_append (c :: w) t)
  rw [List.cons_append, seek?, if_pos hs]

theorem cut?_append {c : Char} {x : Text} (w t : Text) (h : c ∉ x) :
    cut? (c :: w) (x ++ (c :: w ++ t)) = some (x, t) := by
  rw [cut?, seek?_append_of_notMem w _ h, seek?_self_append, Option.map_some, List.drop_left,
    List.length_append, Nat.add_sub_cancel, List.take_left]

theorem after?_append_right {w t : Text} (h : w.length ≤ t.length) (u : Text) :
    after? w (t ++ u) = (after? w t).map (· ++ u) := by
  cases ht : after? w t with
  | some r =>
    rw [Option.map_some, after?_eq_some_iff, after?_eq_some_iff.1 ht, List.append_assoc]
  | none =>
    rw [Option.map_none]
    by_contra hne
    obtain ⟨r, hr⟩ := Option.ne_none_iff_exists'.1 hne
    have hw : w <+: t ++ u := ⟨r, (after?_eq_some_iff.1 hr).symm⟩
    obtain ⟨b, rfl⟩ := List.prefix_of_prefix_length_le hw (List.prefix_append t u) h
    rw [after?_eq_some_iff.2 rfl] at ht
    cases ht

theorem startsWith_append_right {w t : Text} (h : w.length ≤ t.length) (u : Text) :
    startsWith w (t ++ u) = startsWith w t := by
  rw [startsWith, after?_append_right h, Option.isSome_map, startsWith]

private theorem seek?_append_right {w t s : Text} (h : seek? w t = some s) (u : Text) :
    seek? w (t ++ u) = some (s ++ u) := by
  induction t with
  | nil =>
    obtain ⟨before, hb, hw⟩ := seek?_eq_some h
    obtain ⟨rfl, rfl⟩ := List.append_eq_nil_iff.1 hb.symm
    obtain rfl : w = [] := List.prefix_nil.1 hw
    cases u <;> rfl
  | cons c t ih =>
    have hlen : w.length ≤ (c :: t).length := by
      obtain ⟨before, hb, hw⟩ := seek?_eq_some h
      rw [hb, List.length_append]
      exact hw.length_le.trans (Nat.le_add_left ..)
    have hstart := startsWith_append_right hlen u
    rw [List.cons_append] at hstart ⊢
    rw [seek?] at h ⊢
    rw [hstart]
    split at h
    · next hw =>
      obtain rfl := Option.some.inj h
      rw [if_pos hw, List.cons_append]
    · next hw => rw [if_neg hw, ih h]

theorem cut?_append_right {w t a b : Text} (h : cut? w t = some (a, b)) (u : Text) :
    cut? w (t ++ u) = some (a, b ++ u) := by
  obtain ⟨s, hs, he⟩ := Option.map_eq_some_iff.1 h
  obtain ⟨before, rfl, hw⟩ := seek?_eq_some hs
  obtain ⟨ha, hb⟩ := Prod.mk.inj he
  rw [cut?, seek?_append_right hs, Option.map_some, ← ha, ← hb,
    List.drop_append_of_le_length hw.length_le]
  simp

/-- No end of `u` other than the whole and nothing can be the beginning of an occurrence of `v`. -/
def Apart (u v : Text) : Prop :=
  ∀ e ∈ u.tails.tail, e ≠ [] → ¬ e <+: v ∧ ¬ v <+: e

instance (u v : Text) : Decidable (Apart u v) :=
  inferInstanceAs (Decidable (∀ e ∈ u.tails.tail, e ≠ [] → ¬ e <+: v ∧ ¬ v <+: e))

private theorem mem_tail_tails {q e : Text} (hq : q ≠ []) : e ∈ (q ++ e).tails.tail := by
  cases q with
  | nil => exact absurd rfl hq
  | cons a q =>
    rw [List.cons_append, List.tails_cons, List.tail_cons, List.mem_tails]
    exact List.suffix_append q e

theorem Apart.prefix_append {u v q t : Text} (h : Apart u v) (hq : q ≠ [])
    (hu : u <+: q ++ (v ++ t)) : u <+: q := by
  rcases List.prefix_or_prefix_of_prefix hu (List.prefix_append q _) with hp | ⟨e, rfl⟩
  · exact hp
  · by_cases he : e = []
    · rw [he, List.append_nil]
    · have hev : e <+: v ++ t := (List.prefix_append_right_inj q).1 hu
      obtain ⟨hne, hnv⟩ := h e (mem_tail_tails hq) he
      rcases List.prefix_or_prefix_of_prefix hev (List.prefix_append v t) with hp | hp
      · exact absurd hp hne
      · exact absurd hp hnv

end Scratchpad.Text
