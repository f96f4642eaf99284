import Mathlib.Data.List.TakeWhile
import Scratchpad.Probe
import Scratchpad.Proofs.Echo.Comment
import Scratchpad.Proofs.Text.Trim

/-!
The search for a probe on a line. What is asked for depends on the comment alone, which starts at the
first marker (`search?_eq_bind_comment?`), and blanks at the end of the line change nothing
(`search?_append_blanks`).
-/

set_option autoImplicit false
set_option relaxedAutoImplicit false

namespace Scratchpad

namespace Text

def blankPoints : List Nat :=
  [0x9, 0xA, 0xB, 0xC, 0xD, 0x20, 0x85, 0xA0, 0x1680, 0x2000, 0x2001, 0x2002, 0x2003, 0x2004, 0x2005,
    0x2006, 0x2007, 0x2008, 0x2009, 0x200A, 0x2028, 0x2029, 0x202F, 0x205F, 0x3000]

private theorem toNat_mem_blankPoints {c : Char} (h : isBlank c = true) : c.toNat ∈ blankPoints
    := by
  simp only [isBlank, Bool.or_eq_true, Bool.and_eq_true, decide_eq_true_eq, beq_iff_eq] at h
  simp only [blankPoints, List.mem_cons, List.not_mem_nil, or_false]
  omega

theorem isAlphabetic_of_isBlank {c : Char} (h : isBlank c = true) : isAlphabetic c = false := by
  have hall : ∀ n ∈ blankPoints, isAlphabetic (Char.ofNat n) = false := by decide +kernel
  have hc := hall c.toNat (toNat_mem_blankPoints h)
  rwa [Char.ofNat_toNat] at hc

theorem trimStart_append_of_blanks {x : Text} (h : ∀ c ∈ x, isBlank c = true) (t : Text) :
    trimStart (x ++ t) = trimStart t :=
  List.dropWhile_append_of_pos h

private theorem trimStart_append_of_ne_nil {x : Text} (h : trimStart x ≠ []) (t : Text) :
    trimStart (x ++ t) = trimStart x ++ t := by
  simp only [trimStart, List.dropWhile_append] at h ⊢
  rw [if_neg (by simpa using h)]

end Text

namespace Probe

structure CommentStyle.HasMarkers (style : CommentStyle) : Prop where
  nil_notMem : [] ∉ style.markers
  notMem_of_isBlank : ∀ c, Text.isBlank c = true → ∀ m ∈ style.markers, c ∉ m

variable {style : CommentStyle}

def startsName : Text → Bool
  | c :: _ => Text.isAlphabetic c || c == '_'
  | [] => false

private theorem startsName_append_blank {b : Char} (hb : Text.isBlank b = true) (t : Text) :
    startsName (t ++ [b]) = startsName t := by
  cases t with
  | cons c t => rfl
  | nil =>
    have hne : b ≠ '_' := by
      rintro rfl
      cases hb
    simp [startsName, Text.isAlphabetic_of_isBlank hb, hne]

theorem expression?_of_dollar {t r : Text} (h : Text.trimStart t = '$' :: r) (sigil : Bool) :
    expression? sigil t =
      if (if (sigil && startsName r) = true then '$' :: Text.trimEnd r else Text.trim r).isEmpty
      then none
      else some (if (sigil && startsName r) = true then '$' :: Text.trimEnd r else Text.trim r) := by
  unfold expression?
  rw [h]
  cases r <;> rfl

theorem expression?_eq_none {t : Text} (h : (Text.trimStart t).head? ≠ some '$') (sigil : Bool) :
    expression? sigil t = none := by
  unfold expression?
  split
  · next r hr => exact absurd (by rw [hr]; rfl) h
  · rfl

private theorem expression?_append_blank {b : Char} (hb : Text.isBlank b = true) (sigil : Bool)
    (t : Text) : expression? sigil (t ++ [b]) = expression? sigil t := by
  cases ht : Text.trimStart t with
  | nil =>
    have hblank : ∀ c ∈ t, Text.isBlank c = true := List.dropWhile_eq_nil_iff.1 ht
    have hrest : Text.trimStart (t ++ [b]) = [] := by
      rw [Text.trimStart_append_of_blanks hblank]
      simp [Text.trimStart, hb]
    rw [expression?_eq_none (by simp [hrest]), expression?_eq_none (by simp [ht])]
  | cons c r =>
    have hrest : Text.trimStart (t ++ [b]) = c :: (r ++ [b]) := by
      rw [Text.trimStart_append_of_ne_nil (by simp [ht]), ht, List.cons_append]
    by_cases hc : c = '$'
    · subst hc
      rw [expression?_of_dollar ht, expression?_of_dollar hrest, startsName_append_blank hb,
        Text.trimEnd_append_blank hb, Text.trim_append_blank hb]
    · rw [expression?_eq_none (by simp [hrest, hc]), expression?_eq_none (by simp [ht, hc])]

private theorem firstAt?_append_blank (h : style.HasMarkers) {b : Char} (hb : Text.isBlank b = true)
    (t : Text) : Text.firstAt? style.markers (t ++ [b]) = Text.firstAt? style.markers t := by
  have hiff : ∀ m ∈ style.markers, Text.startsWith m (t ++ [b]) = Text.startsWith m t := by
    intro m hm
    rw [Bool.eq_iff_iff, Text.startsWith_iff, Text.startsWith_iff]
    exact Text.isPrefix_append_cons_iff (h.notMem_of_isBlank b hb m hm) t []
  unfold Text.firstAt?
  generalize style.markers = ms at hiff
  induction ms with
  | nil => rfl
  | cons m ms ih =>
    rw [List.forall_mem_cons] at hiff
    rw [List.find?_cons, List.find?_cons, hiff.1, ih hiff.2]

private theorem searchFrom_append_blank (h : style.HasMarkers) {b : Char}
    (hb : Text.isBlank b = true)
    (k : Nat) (t : Text) : searchFrom style k (t ++ [b]) = searchFrom style k t := by
  induction t generalizing k with
  | nil =>
    cases k with
    | succ k => rfl
    | zero =>
      have hnone : Text.firstAt? style.markers [b] = none := by
        rw [← List.nil_append [b], firstAt?_append_blank h hb, Text.firstAt?, List.find?_eq_none]
        intro m hm hnil
        rw [List.prefix_nil.1 (Text.startsWith_iff.1 hnil)] at hm
        exact h.nil_notMem hm
      simp only [List.nil_append, searchFrom, hnone]
  | cons c t ih =>
    cases k with
    | succ k => exact ih k
    | zero =>
      have hfirst := firstAt?_append_blank h hb (c :: t)
      rw [List.cons_append] at hfirst ⊢
      rw [searchFrom, searchFrom, hfirst]
      cases hm : Text.firstAt? style.markers (c :: t) with
      | none => exact ih 0
      | some m =>
        have hprefix : m <+: c :: t := Text.startsWith_iff.1 (by
          simpa using List.find?_some hm)
        have hdrop : (c :: (t ++ [b])).drop m.length = (c :: t).drop m.length ++ [b] := by
          rw [← List.cons_append, List.drop_append_of_le_length hprefix.length_le]
        simp only [hdrop, expression?_append_blank hb, ih]

theorem search?_append_blanks (h : style.HasMarkers) {x : Text}
    (hx : ∀ c ∈ x, Text.isBlank c = true) (t : Text) :
    search? style (t ++ x) = search? style t := by
  induction x generalizing t with
  | nil => rw [List.append_nil]
  | cons b x ih =>
    rw [List.forall_mem_cons] at hx
    rw [List.append_cons, ih hx.2, search?, searchFrom_append_blank h hx.1, search?]

theorem search?_eq_bind_comment? {rules : Echo.Rules} (h : rules.lineComments = style.markers)
    (t : Text) : search? style t = (rules.comment? t).bind (search? style) := by
  induction t with
  | nil => rfl
  | cons c t ih =>
    cases hc : rules.isComment (c :: t) with
    | true => rw [Echo.Rules.comment?_cons_of_isComment hc, Option.bind_some]
    | false =>
      have hnone : Text.firstAt? style.markers (c :: t) = none := by
        rw [← h, ← Option.not_isSome_iff_eq_none, Bool.not_eq_true]
        exact hc
      rw [Echo.Rules.comment?_cons hc, ← ih]
      simp only [search?, searchFrom, hnone]

theorem collect_congr {ls ls' : List Text}
    (h : ls.map (search? style) = ls'.map (search? style)) (n : Nat) :
    collect style n ls = collect style n ls' := by
  induction ls generalizing ls' n with
  | nil =>
    rw [List.map_nil, eq_comm, List.map_eq_nil_iff] at h
    rw [h]
  | cons l ls ih =>
    cases ls' with
    | nil => cases h
    | cons l' ls' =>
      rw [List.map_cons, List.map_cons, List.cons_eq_cons] at h
      simp only [collect, h.1, ih h.2]

end Probe

end Scratchpad
