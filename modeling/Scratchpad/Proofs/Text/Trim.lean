import Mathlib.Data.List.Infix
import Mathlib.Data.List.TakeWhile
import Scratchpad.Text.Blank

/-!
Trimming. What is trimmed off one end does not reach past a character that is not blank
(`trim_append_of_solid`), and blanks that are added at the end are trimmed off again
(`trim_append_blank`).
-/

set_option autoImplicit false
set_option relaxedAutoImplicit false

namespace Scratchpad.Text

/-- A word that starts and ends with characters that are not blank. -/
structure IsSolid (w : Text) : Prop where
  ne_nil : w ≠ []
  head : ∀ c ∈ w.head?, isBlank c = false
  last : ∀ c ∈ w.getLast?, isBlank c = false

theorem IsSolid.reverse {w : Text} (h : IsSolid w) : IsSolid w.reverse where
  ne_nil := by simpa using h.ne_nil
  head c hc := h.last c (by simpa using hc)
  last c hc := h.head c (by simpa using hc)

theorem IsSolid.dropWhile_append {w : Text} (h : IsSolid w) (x y : Text) :
    (x ++ (w ++ y)).dropWhile isBlank = x.dropWhile isBlank ++ (w ++ y) := by
  induction x with
  | nil =>
    obtain ⟨c, w, rfl⟩ := List.exists_cons_of_ne_nil h.ne_nil
    have hc : isBlank c = false := h.head c (by simp)
    simp [hc]
  | cons a x ih =>
    by_cases ha : isBlank a = true
    · simpa [ha] using ih
    · simp [ha]

theorem IsSolid.trimEnd_append {w : Text} (h : IsSolid w) (x y : Text) :
    trimEnd (x ++ (w ++ y)) = x ++ (w ++ trimEnd y) := by
  have hr := h.reverse.dropWhile_append y.reverse x.reverse
  simp only [trimEnd, trimEndWhile, List.reverse_append, List.append_assoc] at hr ⊢
  rw [hr]
  simp

theorem IsSolid.not_isInfix {w t : Text} (h : w.IsSolid) (ht : ∀ c ∈ t, isBlank c = true) :
    ¬ w <:+: t := by
  intro hw
  obtain ⟨c, v, rfl⟩ := List.exists_cons_of_ne_nil h.ne_nil
  have hsolid : isBlank c = false := h.head c rfl
  rw [ht c (hw.subset (List.mem_cons_self ..))] at hsolid
  cases hsolid

theorem exists_trimEndWhile_append (p : Char → Bool) (t : Text) :
    ∃ ends, (∀ c ∈ ends, p c = true) ∧ t = trimEndWhile p t ++ ends ∧
      ∀ c ∈ (trimEndWhile p t).getLast?, p c = false := by
  refine ⟨(t.reverse.takeWhile p).reverse, fun c hc => ?_, ?_, fun c hc => ?_⟩
  · exact List.mem_takeWhile_imp (List.mem_reverse.1 hc)
  · rw [trimEndWhile, ← List.reverse_append, List.takeWhile_append_dropWhile, List.reverse_reverse]
  · rw [trimEndWhile, List.getLast?_reverse] at hc
    have hhead := List.head?_dropWhile_not p t.reverse
    rw [Option.mem_def.1 hc] at hhead
    simpa using hhead

private theorem trimStart_eq_nil_iff {t : Text} : trimStart t = [] ↔ ∀ c ∈ t, isBlank c = true :=
  List.dropWhile_eq_nil_iff

theorem trim_eq_nil_iff {t : Text} : trim t = [] ↔ ∀ c ∈ t, isBlank c = true := by
  have hend : trim t = [] ↔ ∀ c ∈ trimStart t, isBlank c = true := by
    rw [trim, trimEnd, trimEndWhile, List.reverse_eq_nil_iff, List.dropWhile_eq_nil_iff]
    simp only [List.mem_reverse]
  rw [hend, ← trimStart_eq_nil_iff (t := t)]
  constructor
  · intro hblank
    by_contra hne
    -- what is left begins with a character that is not blank
    have hhead : isBlank ((trimStart t).head hne) = false := List.head_dropWhile_not isBlank hne
    rw [hblank _ (List.head_mem hne)] at hhead
    cases hhead
  · intro hnil c hc
    rw [hnil] at hc
    cases hc

theorem trimEnd_isPrefix (t : Text) : trimEnd t <+: t := by
  have h : (t.reverse.dropWhile isBlank) <:+ t.reverse := List.dropWhile_suffix _
  simpa [trimEnd, trimEndWhile] using List.reverse_prefix.2 h

theorem trim_append_of_solid {w : Text} (h : IsSolid w) (x y : Text) :
    trim (x ++ (w ++ y)) = trimStart x ++ (w ++ trimEnd y) := by
  rw [trim, trimStart, h.dropWhile_append, h.trimEnd_append, trimStart]

theorem trim_append_solid {x w : Text} (hx : ∀ c ∈ x, isBlank c = true) (hw : w.IsSolid) :
    trim (x ++ w) = w := by
  have h := trim_append_of_solid hw x []
  rw [trimStart_eq_nil_iff.2 hx] at h
  simpa [trimEnd, trimEndWhile] using h

theorem IsSolid.trim_eq {w : Text} (h : w.IsSolid) : trim w = w :=
  trim_append_solid (x := []) (by simp) h

theorem isBlank_head?_trim (t : Text) : ∀ c ∈ (trim t).head?, isBlank c = false := by
  intro c hc
  have hprefix : trim t <+: trimStart t := trimEnd_isPrefix _
  have hstart : c ∈ (trimStart t).head? := by
    obtain ⟨y, hy⟩ := hprefix
    rw [← hy, List.head?_append_of_ne_nil]
    · exact hc
    · rintro hnil
      rw [hnil] at hc
      cases hc
  have hhead := List.head?_dropWhile_not isBlank t
  rw [← trimStart, Option.mem_def.1 hstart] at hhead
  simpa using hhead

theorem isBlank_getLast?_trim (t : Text) : ∀ c ∈ (trim t).getLast?, isBlank c = false := by
  obtain ⟨ends, -, -, hlast⟩ := exists_trimEndWhile_append isBlank (trimStart t)
  exact hlast

theorem trimEnd_append_blank {c : Char} (h : isBlank c = true) (t : Text) :
    trimEnd (t ++ [c]) = trimEnd t := by
  simp [trimEnd, trimEndWhile, h]

theorem trim_append_blank {c : Char} (h : isBlank c = true) (t : Text) :
    trim (t ++ [c]) = trim t := by
  induction t with
  | nil => simp [trim, trimStart, trimEnd, trimEndWhile, h]
  | cons a t ih =>
    by_cases ha : isBlank a = true
    · simpa [trim, trimStart, ha] using ih
    · have hs : ∀ s : Text, trim (a :: s) = trimEnd (a :: s) := fun s => by
        simp [trim, trimStart, ha]
      rw [List.cons_append, hs, hs, ← List.cons_append, trimEnd_append_blank h]

theorem trim_cons_of_solid {c : Char} (h : isBlank c = false) (t : Text) :
    ∃ s, trim (c :: t) = c :: s := by
  have hs : IsSolid [c] := ⟨by simp, by simp [h], by simp [h]⟩
  exact ⟨trimEnd t, by simpa [trimStart] using trim_append_of_solid hs [] t⟩

end Scratchpad.Text
