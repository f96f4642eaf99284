import Scratchpad.Echo.Transform
import Scratchpad.Proofs.Text.Search

/-!
Where the line comment of a text starts. A character that no marker holds is *foreign*; a comment
cannot start across it, so what stands before a foreign character either holds a marker itself or does
not matter (`comment?_append_cons`).
-/

set_option autoImplicit false
set_option relaxedAutoImplicit false

namespace Scratchpad

namespace Text

theorem isPrefix_append_cons_iff {c : Char} {w : Text} (h : c ∉ w) (x y : Text) :
    w <+: x ++ c :: y ↔ w <+: x := by
  constructor
  · intro hw
    rcases List.prefix_or_prefix_of_prefix hw (List.prefix_append x (c :: y)) with hx | ⟨r, rfl⟩
    · exact hx
    · have hr : r <+: c :: y := (List.prefix_append_right_inj x).1 hw
      cases r with
      | nil => simp
      | cons d r =>
        obtain ⟨rfl, -⟩ := List.cons_prefix_cons.1 hr
        exact absurd (List.mem_append_right x (List.mem_cons_self ..)) h
  · intro hw
    exact hw.trans (List.prefix_append x (c :: y))

theorem isSome_firstAt?_iff {words : List Text} {t : Text} :
    (firstAt? words t).isSome = true ↔ ∃ w ∈ words, w <+: t := by
  simp only [firstAt?, List.find?_isSome, startsWith_iff]

end Text

namespace Echo.Rules

variable {rules : Rules}

theorem isComment_iff {t : Text} :
    rules.isComment t = true ↔ ∃ m ∈ rules.lineComments, m <+: t :=
  Text.isSome_firstAt?_iff

/-- A character that no marker of a line comment holds. -/
def Foreign (rules : Rules) (c : Char) : Prop :=
  ∀ m ∈ rules.lineComments, c ∉ m

instance (rules : Rules) (c : Char) : Decidable (rules.Foreign c) :=
  inferInstanceAs (Decidable (∀ m ∈ rules.lineComments, c ∉ m))

/-- The markers of line comments can be told from what stands around them. -/
structure HasMarkers (rules : Rules) : Prop where
  nil_notMem : [] ∉ rules.lineComments
  foreign_of_isBlank : ∀ c, Text.isBlank c = true → rules.Foreign c

theorem HasMarkers.isComment_nil (h : rules.HasMarkers) : rules.isComment [] = false := by
  rw [← Bool.not_eq_true, isComment_iff]
  rintro ⟨m, hm, hnil⟩
  rw [List.prefix_nil.1 hnil] at hm
  exact h.nil_notMem hm

theorem isComment_append_cons {c : Char} (hc : rules.Foreign c) (x y : Text) :
    rules.isComment (x ++ c :: y) = rules.isComment x := by
  rw [Bool.eq_iff_iff, isComment_iff, isComment_iff]
  constructor
  · rintro ⟨m, hm, hx⟩
    exact ⟨m, hm, (Text.isPrefix_append_cons_iff (hc m hm) x y).1 hx⟩
  · rintro ⟨m, hm, hx⟩
    exact ⟨m, hm, (Text.isPrefix_append_cons_iff (hc m hm) x y).2 hx⟩

theorem isComment_of_isPrefix {x t : Text} (hx : x <+: t) (h : rules.isComment x = true) :
    rules.isComment t = true := by
  obtain ⟨m, hm, hmx⟩ := isComment_iff.1 h
  exact isComment_iff.2 ⟨m, hm, hmx.trans hx⟩

theorem comment?_cons_of_isComment {c : Char} {t : Text} (h : rules.isComment (c :: t) = true) :
    rules.comment? (c :: t) = some (c :: t) := by
  rw [comment?, if_pos h]

theorem comment?_cons {c : Char} {t : Text} (h : rules.isComment (c :: t) = false) :
    rules.comment? (c :: t) = rules.comment? t := by
  rw [comment?, if_neg (by simp [h])]

theorem comment?_cons_eq_none_iff {c : Char} {t : Text} :
    rules.comment? (c :: t) = none ↔
      rules.isComment (c :: t) = false ∧ rules.comment? t = none := by
  cases h : rules.isComment (c :: t) with
  | true => simp [comment?_cons_of_isComment h]
  | false => simp [comment?_cons h]

theorem comment?_append_cons (h : rules.HasMarkers) {c : Char} (hc : rules.Foreign c) {x : Text}
    (hx : rules.comment? x = none) (y : Text) :
    rules.comment? (x ++ c :: y) = rules.comment? y := by
  induction x with
  | nil =>
    have hnone : rules.isComment ([] ++ c :: y) = false := by
      rw [isComment_append_cons hc, h.isComment_nil]
    rw [List.nil_append] at hnone ⊢
    exact comment?_cons hnone
  | cons a x ih =>
    obtain ⟨ha, hx⟩ := comment?_cons_eq_none_iff.1 hx
    rw [List.cons_append, comment?_cons, ih hx]
    rw [← List.cons_append, isComment_append_cons hc, ha]

theorem comment?_foreign_append (h : rules.HasMarkers) {x : Text} (hx : ∀ c ∈ x, rules.Foreign c)
    (t : Text) : rules.comment? (x ++ t) = rules.comment? t := by
  induction x with
  | nil => rfl
  | cons a x ih =>
    rw [List.forall_mem_cons] at hx
    have ha := comment?_append_cons h hx.1 (x := []) rfl (x ++ t)
    rw [List.nil_append] at ha
    rw [List.cons_append, ha, ih hx.2]

theorem comment?_eq_some {t c : Text} (ht : rules.comment? t = some c) :
    ∃ x, t = x ++ c ∧ rules.comment? x = none ∧ rules.isComment c = true := by
  induction t with
  | nil => cases ht
  | cons a t ih =>
    cases ha : rules.isComment (a :: t) with
    | true =>
      rw [comment?_cons_of_isComment ha, Option.some.injEq] at ht
      exact ⟨[], by simp [ht], rfl, by rw [← ht, ha]⟩
    | false =>
      rw [comment?_cons ha] at ht
      obtain ⟨x, rfl, hx, hc⟩ := ih ht
      refine ⟨a :: x, rfl, comment?_cons_eq_none_iff.2 ⟨?_, hx⟩, hc⟩
      rw [← Bool.not_eq_true] at ha ⊢
      exact fun hax => ha (isComment_of_isPrefix (List.prefix_append (a :: x) c) hax)

theorem comment?_eq_self {c : Text} (h : rules.HasMarkers) (hc : rules.isComment c = true) :
    rules.comment? c = some c := by
  cases c with
  | nil => rw [h.isComment_nil] at hc; cases hc
  | cons a c => exact comment?_cons_of_isComment hc

theorem comment?_eq_none_of_isPrefix {x t : Text} (hx : x <+: t) (ht : rules.comment? t = none) :
    rules.comment? x = none := by
  obtain ⟨y, rfl⟩ := hx
  induction x with
  | nil => rfl
  | cons a x ih =>
    obtain ⟨ha, hrest⟩ := comment?_cons_eq_none_iff.1 ht
    refine comment?_cons_eq_none_iff.2 ⟨?_, ih hrest⟩
    rw [← Bool.not_eq_true] at ha ⊢
    exact fun hax => ha (isComment_of_isPrefix (List.prefix_append (a :: x) y) hax)

end Echo.Rules

end Scratchpad
