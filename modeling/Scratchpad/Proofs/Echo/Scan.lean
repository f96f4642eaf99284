import Mathlib.Data.List.Find
import Scratchpad.Echo.Transform
import Scratchpad.Proofs.Echo.Comment

/-!
What the scan over the lines of a snippet passes over. Delimiters of strings are made of quotes, so
that no delimiter reaches across another character (`Scan.stringAfter_append`). Characters that are
neither quotes nor brackets are *idle*: with them, or with a pair of parentheses, put around the parts
of a line, the scan goes on as before (`Scan.stringAfter_parts`, `Scan.countDepth_parts`).
-/

set_option autoImplicit false
set_option relaxedAutoImplicit false

namespace Scratchpad

namespace Text

-- what is said of the characters of a text is decided along the text, not along all characters
instance (priority := high) decidableForallMem {p : Char → Prop} [DecidablePred p] (t : Text) :
    Decidable (∀ c ∈ t, p c) :=
  List.decidableBAll p t

instance (priority := high) decidableForallMemOption {p : Char → Prop} [DecidablePred p]
    (o : Option Char) : Decidable (∀ c ∈ o, p c) :=
  Option.decidableForallMem o

private theorem forall_head?_append {p : Char → Prop} {x y : Text} (hx : ∀ c ∈ x.head?, p c)
    (hy : ∀ c ∈ y.head?, p c) : ∀ c ∈ (x ++ y).head?, p c := by
  cases x with
  | nil => exact hy
  | cons a x => exact hx

theorem forall_getLast?_append {p : Char → Prop} {x y : Text} (hx : ∀ c ∈ x.getLast?, p c)
    (hy : ∀ c ∈ y.getLast?, p c) : ∀ c ∈ (x ++ y).getLast?, p c := by
  rcases y.eq_nil_or_concat' with rfl | ⟨y, a, rfl⟩
  · rwa [List.append_nil]
  · rwa [List.getLast?_append_of_ne_nil _ (by simp)]

private theorem startsWith_append {w y : Text} (h : ∀ c ∈ y.head?, c ∉ w) (x : Text) :
    startsWith w (x ++ y) = startsWith w x := by
  cases y with
  | nil => rw [List.append_nil]
  | cons c y =>
    rw [Bool.eq_iff_iff, startsWith_iff, startsWith_iff]
    exact isPrefix_append_cons_iff (h c rfl) x y

private theorem firstAt?_append {words : List Text} {y : Text}
    (h : ∀ w ∈ words, ∀ c ∈ y.head?, c ∉ w) (x : Text) :
    firstAt? words (x ++ y) = firstAt? words x :=
  List.find?_congr fun w hw => startsWith_append (h w hw) x

private theorem startsWith_eq_false_of_notMem {c : Char} {w : Text} (hne : w ≠ []) (hc : c ∉ w)
    (t : Text) : startsWith w (c :: t) = false := by
  rw [← List.nil_append (c :: t), startsWith_append (by simpa using hc)]
  cases w with
  | nil => exact absurd rfl hne
  | cons a w => rfl

private theorem firstAt?_eq_some {words : List Text} {t w : Text} (h : firstAt? words t = some w) :
    w ∈ words ∧ w <+: t := by
  have hw : startsWith w t = true := List.find?_some (p := (startsWith · t)) h
  exact ⟨List.mem_of_find?_eq_some h, startsWith_iff.1 hw⟩

end Text

namespace Echo

def quotes : Text :=
  ['"', '\x27', '\x60']

def brackets : Text :=
  ['\x7b', '\x7d', '(', ')']

/-- A character that is neither a quote nor counted. -/
def IsIdle (c : Char) : Prop :=
  c ∉ quotes ∧ c ∉ brackets

instance (c : Char) : Decidable (IsIdle c) :=
  inferInstanceAs (Decidable (c ∉ quotes ∧ c ∉ brackets))

theorem isIdle_of_isBlank {c : Char} (h : Text.isBlank c = true) : IsIdle c := by
  have hsolid : ∀ d ∈ quotes ++ brackets, Text.isBlank d = false := by
    simp [quotes, brackets, Text.isBlank]
  constructor
  · intro hc
    rw [hsolid c (List.mem_append_left _ hc)] at h
    cases h
  · intro hc
    rw [hsolid c (List.mem_append_right _ hc)] at h
    cases h

def AreQuotes (delimiters : List Text) : Prop :=
  ∀ d ∈ delimiters, d ≠ [] ∧ d ⊆ quotes

instance (delimiters : List Text) : Decidable (AreQuotes delimiters) :=
  inferInstanceAs (Decidable (∀ d ∈ delimiters, d ≠ [] ∧ d ⊆ quotes))

namespace Scan

section Strings

variable {delimiters : List Text} {opened : Option Text}

theorem mem_of_stringAfter (ho : ∀ d ∈ opened, d ∈ delimiters) (skip : Nat) (t : Text) :
    ∀ d ∈ stringAfter delimiters opened skip t, d ∈ delimiters := by
  fun_induction stringAfter delimiters opened skip t with
  | case1 => exact ho
  | case2 opened k c t ih => exact ih ho
  | case3 c t d hd ih => exact ih (by simp)
  | case4 c t d hd ih => exact ih ho
  | case5 c t d hd ih =>
    refine ih ?_
    rintro d' ⟨⟩
    exact (Text.firstAt?_eq_some hd).1
  | case6 c t hd ih => exact ih (by simp)

private theorem stringAfter_cons (hd : AreQuotes delimiters) (ho : ∀ d ∈ opened, d ∈ delimiters)
    {c : Char} (hc : c ∉ quotes) (t : Text) :
    stringAfter delimiters opened 0 (c :: t) = stringAfter delimiters opened 0 t := by
  have hno : ∀ d ∈ delimiters, Text.startsWith d (c :: t) = false := fun d hm =>
    Text.startsWith_eq_false_of_notMem (hd d hm).1 (fun h => hc ((hd d hm).2 h)) t
  cases opened with
  | some d => rw [stringAfter, if_neg (by simp [hno d (ho d rfl)])]
  | none =>
    have hfirst : Text.firstAt? delimiters (c :: t) = none :=
      List.find?_eq_none.2 fun d hm => by simp [hno d hm]
    simp only [stringAfter, hfirst]

theorem stringAfter_append_left (hd : AreQuotes delimiters) (ho : ∀ d ∈ opened, d ∈ delimiters)
    {x : Text} (hx : ∀ c ∈ x, c ∉ quotes) (t : Text) :
    stringAfter delimiters opened 0 (x ++ t) = stringAfter delimiters opened 0 t := by
  induction x with
  | nil => rfl
  | cons c x ih =>
    rw [List.forall_mem_cons] at hx
    rw [List.cons_append, stringAfter_cons hd ho hx.1, ih hx.2]

theorem stringAfter_append (hd : AreQuotes delimiters) (ho : ∀ d ∈ opened, d ∈ delimiters) {y : Text}
    (hy : ∀ c ∈ y.head?, c ∉ quotes) {x : Text} {skip : Nat} (hskip : skip ≤ x.length) :
    stringAfter delimiters opened skip (x ++ y) =
      stringAfter delimiters (stringAfter delimiters opened skip x) 0 y := by
  have hapart : ∀ d ∈ delimiters, ∀ c ∈ y.head?, c ∉ d := fun d hm c hc h =>
    hy c hc ((hd d hm).2 h)
  induction x generalizing opened skip with
  | nil =>
    obtain rfl : skip = 0 := Nat.le_zero.1 hskip
    rfl
  | cons c x ih =>
    cases skip with
    | succ k =>
      rw [List.cons_append, stringAfter, stringAfter]
      exact ih ho (Nat.le_of_succ_le_succ hskip)
    | zero =>
      -- What stands behind holds no quote, so no delimiter reaches across the seam.
      have hbehind : ∀ d : Text, d <+: c :: x → d.length - 1 ≤ x.length := by
        intro d h
        have hlen := h.length_le
        rw [List.length_cons] at hlen
        omega
      cases opened with
      | some d =>
        have hstart := Text.startsWith_append (hapart d (ho d rfl)) (c :: x)
        rw [List.cons_append] at hstart ⊢
        rw [stringAfter, stringAfter, hstart]
        split
        · next h => exact ih (by simp) (hbehind d (Text.startsWith_iff.1 h))
        · exact ih ho (Nat.zero_le _)
      | none =>
        have hfirst := Text.firstAt?_append hapart (c :: x)
        rw [List.cons_append] at hfirst ⊢
        simp only [stringAfter, hfirst]
        cases h : Text.firstAt? delimiters (c :: x) with
        | none => exact ih (by simp) (Nat.zero_le _)
        | some d =>
          obtain ⟨hm, hp⟩ := Text.firstAt?_eq_some h
          exact ih (by simpa using hm) (hbehind d hp)

theorem stringAfter_parts (hd : AreQuotes delimiters) {x e y c z : Text} (hx : ∀ a ∈ x, a ∉ quotes)
    (hy : ∀ a ∈ y, a ∉ quotes) (hc : ∀ a ∈ c.head?, a ∉ quotes) (hz : ∀ a ∈ z, a ∉ quotes) :
    stringAfter delimiters none 0 (x ++ (e ++ (y ++ (c ++ z)))) =
      stringAfter delimiters (stringAfter delimiters none 0 e) 0 c := by
  have hnone : ∀ d ∈ (none : Option Text), d ∈ delimiters := by simp
  have he := mem_of_stringAfter hnone 0 e
  have hzhead : ∀ a ∈ z.head?, a ∉ quotes := fun a ha => hz a (List.mem_of_mem_head? ha)
  have hyhead : ∀ a ∈ (y ++ (c ++ z)).head?, a ∉ quotes :=
    Text.forall_head?_append (fun a ha => hy a (List.mem_of_mem_head? ha))
      (Text.forall_head?_append hc hzhead)
  have hend := stringAfter_append_left hd (mem_of_stringAfter he 0 c) hz []
  rw [List.append_nil] at hend
  rw [stringAfter_append_left hd hnone hx, stringAfter_append hd hnone hyhead (Nat.zero_le _),
    stringAfter_append_left hd he hy, stringAfter_append hd he hzhead (Nat.zero_le _), hend]
  rfl

end Strings

theorem countDepth_append (s : Scan) (x y : Text) :
    s.countDepth (x ++ y) = (s.countDepth x).countDepth y := by
  simp only [countDepth, List.count_append, Scan.mk.injEq, and_true]
  omega

private theorem countDepth_idle (s : Scan) {x : Text} (hx : ∀ c ∈ x, c ∉ brackets) :
    s.countDepth x = s := by
  have hcount : ∀ b ∈ brackets, x.count b = 0 := fun b hb =>
    List.count_eq_zero.2 fun hmem => hx b hmem hb
  simp only [brackets, List.forall_mem_cons] at hcount
  simp [countDepth, hcount]

theorem countDepth_parts (s : Scan) {x e y c z : Text} (hx : ∀ a ∈ x, a ∉ brackets)
    (hy : ∀ a ∈ y, a ∉ brackets) (hz : ∀ a ∈ z, a ∉ brackets) :
    s.countDepth (x ++ (e ++ (y ++ (c ++ z)))) = (s.countDepth e).countDepth c := by
  simp only [countDepth_append, countDepth_idle _ hx, countDepth_idle _ hy, countDepth_idle _ hz]

theorem countDepth_parentheses (s : Scan) (x e y : Text) :
    s.countDepth (x ++ '(' :: (e ++ ')' :: y)) = s.countDepth (x ++ (e ++ y)) := by
  simp only [countDepth, List.count_append, List.count_cons]
  simp
  omega

end Scan

end Echo

end Scratchpad
