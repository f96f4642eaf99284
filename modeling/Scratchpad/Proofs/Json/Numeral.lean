import Mathlib.Data.List.Basic
import Mathlib.Data.List.TakeWhile
import Scratchpad.Json.Number
import Scratchpad.Json.Token

/-!
Numerals. The written form of legal parts is read as these parts (`Numeral.read?_text`), and the
text of every number is such a form (`Number.isSome_read?_text`). What is read as a numeral is made
of the characters of numerals only (`Numeral.isPart_of_read?`).
-/

set_option autoImplicit false
set_option relaxedAutoImplicit false

namespace Scratchpad.Json

namespace Numeral

structure IsDigits (ds : Text) : Prop where
  ne_nil : ds ≠ []
  isDigit : ∀ c ∈ ds, c.isDigit = true

def fractionText : Option Text → Text
  | some ds => '.' :: ds
  | none => []

def exponentText : Option (Bool × Text) → Text
  | some (true, ds) => 'e' :: '-' :: ds
  | some (false, ds) => 'e' :: '+' :: ds
  | none => []

def text (n : Numeral) : Text :=
  (if n.negative then ['-'] else []) ++
    (n.whole ++ (fractionText n.fraction ++ exponentText n.exponent))

structure IsLegal (n : Numeral) : Prop where
  whole : IsDigits n.whole
  head : 1 < n.whole.length → n.whole.head? ≠ some '0'
  fraction : ∀ ds ∈ n.fraction, IsDigits ds
  exponent : ∀ e ∈ n.exponent, IsDigits e.2

theorem digits?_append {ds t : Text} (h : IsDigits ds) (ht : ∀ c ∈ t.head?, c.isDigit = false) :
    digits? (ds ++ t) = some (ds, t) := by
  have htake : (ds ++ t).takeWhile Char.isDigit = ds := by
    rw [List.takeWhile_append_of_pos h.isDigit]
    cases t with
    | nil => simp
    | cons c t => simp [ht c rfl]
  have hdrop : (ds ++ t).dropWhile Char.isDigit = t := by
    rw [List.dropWhile_append_of_pos h.isDigit]
    cases t with
    | nil => rfl
    | cons c t => simp [ht c rfl]
  have hne : ds.isEmpty = false := by simpa using h.ne_nil
  simp only [digits?, htake, hdrop, hne, Bool.false_eq_true, if_false]

private theorem head?_exponentText (e : Option (Bool × Text)) :
    ∀ c ∈ (exponentText e).head?, c.isDigit = false ∧ c ≠ '.' := by
  rcases e with _ | ⟨_ | _, ds⟩ <;> simp [exponentText]

private theorem head?_fractionText (f : Option Text) (e : Option (Bool × Text)) :
    ∀ c ∈ (fractionText f ++ exponentText e).head?, c.isDigit = false := by
  cases f with
  | none => exact fun c hc => (head?_exponentText e c hc).1
  | some ds => simp [fractionText]

private theorem fraction?_append {f : Option Text} (h : ∀ ds ∈ f, IsDigits ds)
    (e : Option (Bool × Text)) :
    fraction? (fractionText f ++ exponentText e) = some (f, exponentText e) := by
  cases f with
  | none => rcases e with _ | ⟨_ | _, ds⟩ <;> rfl
  | some ds =>
    have hd := digits?_append (h ds rfl) fun c hc => (head?_exponentText e c hc).1
    simp only [fractionText, List.cons_append, fraction?, hd, Option.map_some]

private theorem exponent?_text {e : Option (Bool × Text)} (h : ∀ x ∈ e, IsDigits x.2) :
    exponent? (exponentText e) = some (e, []) := by
  rcases e with _ | ⟨_ | _, ds⟩
  · rfl
  all_goals
    have hd := digits?_append (h _ rfl) (t := []) (by simp)
    rw [List.append_nil] at hd
    simp only [exponentText, exponent?, true_or, if_true, hd, Option.map_some]

theorem read?_text {n : Numeral} (h : n.IsLegal) : read? n.text = some n := by
  obtain ⟨negative, whole, fraction, exponent⟩ := n
  obtain ⟨c, w, rfl⟩ := List.exists_cons_of_ne_nil h.whole.ne_nil
  have hc : c.isDigit = true := h.whole.isDigit c (List.mem_cons_self ..)
  have hd := digits?_append h.whole (head?_fractionText fraction exponent)
  have hz : ¬ (1 < (c :: w).length ∧ (c :: w).head? = some '0') := fun hz => h.head hz.1 hz.2
  have hfrac := fraction?_append h.fraction exponent
  have hexp := exponent?_text h.exponent
  dsimp only at hd hz hfrac hexp
  rw [List.cons_append] at hd
  cases negative with
  | true =>
    simp only [text, read?, if_true, List.nil_append, List.cons_append, hd, hz, if_false, hfrac,
      hexp, Option.bind_eq_bind, Option.bind_some, List.isEmpty_nil, Option.pure_def]
  | false =>
    simp only [text, Bool.false_eq_true, if_false, List.nil_append, List.cons_append]
    unfold read?
    split
    next negative t hsign =>
    split at hsign
    · next he =>
      obtain ⟨rfl, -⟩ := List.cons.inj he
      exact absurd hc (by decide)
    · obtain ⟨rfl, rfl⟩ := Prod.mk.inj hsign
      simp only [hd, hz, if_false, hfrac, hexp, Option.bind_eq_bind, Option.bind_some,
        List.isEmpty_nil, if_true, Option.pure_def]

def isPart (c : Char) : Bool :=
  Scanner.isNumeralChar c || c == 'e' || c == 'E'

private theorem isPart_of_isDigit {c : Char} (h : c.isDigit = true) : isPart c = true := by
  simp [isPart, Scanner.isNumeralChar, h]

theorem digits?_eq_some {t ds r : Text} (h : digits? t = some (ds, r)) :
    t = ds ++ r ∧ IsDigits ds := by
  simp only [digits?, Option.ite_none_left_eq_some, Option.some.injEq, Prod.mk.injEq] at h
  obtain ⟨hne, rfl, rfl⟩ := h
  refine ⟨List.takeWhile_append_dropWhile.symm, by simpa using hne, fun c hc => ?_⟩
  exact List.mem_takeWhile_imp hc

private theorem isPart_of_digits? {t ds r : Text} (h : digits? t = some (ds, r)) :
    ∀ c ∈ t, c ∈ r ∨ isPart c = true := by
  obtain ⟨rfl, hds⟩ := digits?_eq_some h
  intro c hc
  rcases List.mem_append.1 hc with hc | hc
  · exact Or.inr (isPart_of_isDigit (hds.isDigit c hc))
  · exact Or.inl hc

private theorem isPart_of_fraction? {t r : Text} {f : Option Text} (h : fraction? t = some (f, r)) :
    ∀ c ∈ t, c ∈ r ∨ isPart c = true := by
  unfold fraction? at h
  split at h
  · obtain ⟨⟨ds, r'⟩, hd, he⟩ := Option.map_eq_some_iff.1 h
    obtain rfl := (Prod.mk.inj he).2
    rw [List.forall_mem_cons]
    exact ⟨Or.inr (by decide), isPart_of_digits? hd⟩
  · obtain rfl := (Prod.mk.inj (Option.some.inj h)).2
    exact fun c hc => Or.inl hc

private theorem isPart_of_exponent? {t r : Text} {e : Option (Bool × Text)}
    (h : exponent? t = some (e, r)) : ∀ c ∈ t, c ∈ r ∨ isPart c = true := by
  unfold exponent? at h
  split at h
  · next letter t =>
    split_ifs at h with hletter
    · have hl : isPart letter = true := by
        rcases hletter with rfl | rfl <;> decide
      rw [List.forall_mem_cons]
      refine ⟨Or.inr hl, ?_⟩
      split at h
      · obtain ⟨⟨ds, r'⟩, hd, he⟩ := Option.map_eq_some_iff.1 h
        obtain rfl := (Prod.mk.inj he).2
        rw [List.forall_mem_cons]
        exact ⟨Or.inr (by decide), isPart_of_digits? hd⟩
      · obtain ⟨⟨ds, r'⟩, hd, he⟩ := Option.map_eq_some_iff.1 h
        obtain rfl := (Prod.mk.inj he).2
        rw [List.forall_mem_cons]
        exact ⟨Or.inr (by decide), isPart_of_digits? hd⟩
      · obtain ⟨⟨ds, r'⟩, hd, he⟩ := Option.map_eq_some_iff.1 h
        obtain rfl := (Prod.mk.inj he).2
        exact isPart_of_digits? hd
    · obtain rfl := (Prod.mk.inj (Option.some.inj h)).2
      exact fun c hc => Or.inl hc
  · exact fun c hc => absurd hc List.not_mem_nil

theorem isPart_of_read? {t : Text} {n : Numeral} (h : read? t = some n) :
    ∀ c ∈ t, isPart c = true := by
  unfold read? at h
  split at h
  next negative t' hsign =>
  simp only [Option.bind_eq_bind, Option.bind_eq_some_iff] at h
  obtain ⟨⟨whole, t₁⟩, hw, h⟩ := h
  have hrest : ∃ f t₂ e t₃, fraction? t₁ = some (f, t₂) ∧ exponent? t₂ = some (e, t₃) ∧ t₃ = [] := by
    split_ifs at h
    · simp at h
    · simp only [Option.bind_eq_some_iff] at h
      obtain ⟨⟨f, t₂⟩, hf, ⟨e, t₃⟩, he, h⟩ := h
      split_ifs at h with hnil
      exact ⟨f, t₂, e, t₃, hf, he, List.isEmpty_iff.1 hnil⟩
  obtain ⟨f, t₂, e, t₃, hf, he, rfl⟩ := hrest
  have hparts : ∀ c ∈ t', isPart c = true := by
    intro c hc
    rcases isPart_of_digits? hw c hc with hc | hc
    · rcases isPart_of_fraction? hf c hc with hc | hc
      · rcases isPart_of_exponent? he c hc with hc | hc
        · exact absurd hc List.not_mem_nil
        · exact hc
      · exact hc
    · exact hc
  split at hsign
  · obtain ⟨rfl, rfl⟩ := Prod.mk.inj hsign
    rw [List.forall_mem_cons]
    exact ⟨by decide, hparts⟩
  · obtain ⟨rfl, rfl⟩ := Prod.mk.inj hsign
    exact hparts

end Numeral

namespace Numeral

theorem isDigits_toDigits (n : Nat) : IsDigits (Nat.toDigits 10 n) :=
  ⟨Nat.toDigits_ne_nil, fun _ hc => Nat.isDigit_of_mem_toDigits (by decide) (by decide) hc⟩

private theorem digitChar_ne_zero : ∀ n < 10, n ≠ 0 → Nat.digitChar n ≠ '0' := by
  decide

private theorem head?_toDigits_ne_zero {n : Nat} (h : n ≠ 0) : (Nat.toDigits 10 n).head? ≠ some '0'
    := by
  induction n using Nat.strong_induction_on with
  | h n ih =>
    rw [Nat.toDigits_eq_if (by decide)]
    split
    · next hn => simpa using digitChar_ne_zero n hn h
    · rw [List.head?_append_of_ne_nil _ Nat.toDigits_ne_nil]
      exact ih (n / 10) (by omega) (by omega)

def ofNat (negative : Bool) (n : Nat) : Numeral :=
  ⟨negative, Nat.toDigits 10 n, none, none⟩

theorem isLegal_ofNat (negative : Bool) (n : Nat) : (ofNat negative n).IsLegal where
  whole := isDigits_toDigits n
  head h := head?_toDigits_ne_zero (by
    rintro rfl
    simp [ofNat, Nat.toDigits_zero] at h)
  fraction := by simp [ofNat]
  exponent := by simp [ofNat]

theorem text_ofNat (negative : Bool) (n : Nat) :
    (ofNat negative n).text = (if negative then ['-'] else []) ++ Nat.toDigits 10 n := by
  cases negative <;> simp [text, ofNat, fractionText, exponentText]

end Numeral

namespace Binary64

open Numeral (IsDigits isDigits_toDigits head?_toDigits_ne_zero)

private theorem ne_zero_of_digits? {x : Binary64} {n : Nat} {r : Nat × Int} (hm : x.mantissa ≠ 0)
    (h : x.digits? n = some r) : r.1 ≠ 0 := by
  unfold digits? at h
  extract_lets m low lift den value k up down inside below near far at h
  have hlow : 0 < low := by
    have hm : m ≠ 0 := hm
    simp only [low]
    split <;> omega
  have hlift : 0 < lift := by
    simp only [lift]
    split
    · exact Nat.pow_pos (by decide)
    · decide
  have hdown : 0 < down := by
    simp only [down]
    split
    · decide
    · exact Nat.pow_pos (by decide)
  -- zero lies below the interval
  have hzero : inside 0 = false := by
    have hpos : 0 < low * lift * down := Nat.mul_pos (Nat.mul_pos hlow hlift) hdown
    have hne : ¬ low * lift * down ≤ 0 := by omega
    simp only [inside, Nat.zero_mul, hne, Nat.not_lt_zero, decide_false, Bool.false_and, ite_self]
  have hne : ∀ d, inside d = true → d ≠ 0 := by
    rintro d hd rfl
    simp [hzero] at hd
  split at h
  · next hin => exact Option.some.inj h ▸ hne near hin
  · split at h
    · next hin => exact Option.some.inj h ▸ hne far hin
    · simp at h

private theorem shortestFrom_ne_zero {x : Binary64} (hm : x.mantissa ≠ 0) (fuel n : Nat) :
    x.shortestFrom fuel n = (0, 0) ∨ (x.shortestFrom fuel n).1 ≠ 0 := by
  induction fuel generalizing n with
  | zero => exact Or.inl rfl
  | succ fuel ih =>
    rw [shortestFrom]
    split
    · next hr => exact Or.inr (ne_zero_of_digits? hm hr)
    · exact ih (n + 1)

private theorem shortest_ne_zero {x : Binary64} (hm : x.mantissa ≠ 0) :
    x.shortest = (0, 0) ∨ x.shortest.1 ≠ 0 :=
  shortestFrom_ne_zero hm 17 1

private theorem scientific_cases {p : Nat × Int} (h : p = (0, 0) ∨ p.1 ≠ 0) :
    scientific p.1 p.2 = ([], 0) ∨
      IsDigits (scientific p.1 p.2).1 ∧ (scientific p.1 p.2).1.head? ≠ some '0' := by
  obtain ⟨d, k⟩ := p
  rcases h with h | hd
  · obtain ⟨rfl, rfl⟩ := Prod.mk.inj h
    exact Or.inl rfl
  · right
    have hp : (scientific d k).1 <+: Nat.toDigits 10 d := by
      have hs := List.dropWhile_suffix (l := (Nat.toDigits 10 d).reverse) (· == '0')
      simpa [scientific] using List.reverse_prefix.2 hs
    have hne : (scientific d k).1 ≠ [] := by
      intro hnil
      simp only [scientific, List.reverse_eq_nil_iff, List.dropWhile_eq_nil_iff,
        List.mem_reverse, beq_iff_eq] at hnil
      obtain ⟨c, w, hc⟩ := List.exists_cons_of_ne_nil (isDigits_toDigits d).ne_nil
      have hz := head?_toDigits_ne_zero hd
      rw [hc] at hz hnil
      exact hz (by rw [hnil c (List.mem_cons_self ..)]; rfl)
    refine ⟨⟨hne, fun c hc => (isDigits_toDigits d).isDigit c (hp.subset hc)⟩, ?_⟩
    obtain ⟨b, hb⟩ := hp
    rw [← List.head?_append_of_ne_nil _ hne, hb]
    exact head?_toDigits_ne_zero hd

def numeral (x : Binary64) : Numeral :=
  let s := scientific x.shortest.1 x.shortest.2
  if x.mantissa = 0 then ⟨x.negative, ['0'], some ['0'], none⟩
  else if 0 ≤ s.2 ∧ s.2 ≤ 15 then
    let n := s.2.toNat + 1
    ⟨x.negative, s.1.take n ++ List.replicate (n - s.1.length) '0',
      some (if (s.1.drop n).isEmpty then ['0'] else s.1.drop n), none⟩
  else if -5 ≤ s.2 ∧ s.2 < 0 then
    ⟨x.negative, ['0'], some (List.replicate ((-s.2).toNat - 1) '0' ++ s.1), none⟩
  else
    ⟨x.negative, s.1.take 1, if (s.1.drop 1).isEmpty then none else some (s.1.drop 1),
      some (decide (s.2 < 0), Nat.toDigits 10 s.2.natAbs)⟩

private theorem exponentText_decide (k : Int) (ds : Text) :
    Numeral.exponentText (some (decide (k < 0), ds)) = 'e' :: (if k < 0 then '-' else '+') :: ds := by
  by_cases h : k < 0 <;> simp [Numeral.exponentText, h]

private theorem fractionText_ite (t : Text) :
    Numeral.fractionText (if t.isEmpty then none else some t) =
      if t.isEmpty then [] else '.' :: t := by
  cases t <;> rfl

private theorem text_numeral (x : Binary64) : x.numeral.text = x.text := by
  unfold numeral text
  generalize scientific x.shortest.1 x.shortest.2 = s
  obtain ⟨ds, k⟩ := s
  dsimp only
  by_cases hm : x.mantissa = 0
  · simp only [hm, if_true]
    rfl
  · simp only [hm, if_false]
    by_cases hp : 0 ≤ k ∧ k ≤ 15
    · simp only [hp, and_self, if_true, Numeral.text, Numeral.fractionText, Numeral.exponentText,
        List.append_nil]
    · simp only [hp, if_false]
      by_cases hs : -5 ≤ k ∧ k < 0
      · simp only [hs, and_self, if_true, Numeral.text, Numeral.fractionText, Numeral.exponentText,
          List.append_nil, List.cons_append, List.nil_append]
      · simp only [hs, if_false, Numeral.text, fractionText_ite, exponentText_decide,
          List.append_assoc]

private theorem isDigit_of_mem_zeros {n : Nat} : ∀ c ∈ List.replicate n '0', c.isDigit = true := by
  intro c hc
  rw [(List.mem_replicate.1 hc).2]
  rfl

private theorem isDigits_whole {ds : Text} {n : Nat} (hds : ∀ c ∈ ds, c.isDigit = true) (hn : 0 < n)
    : IsDigits (ds.take n ++ List.replicate (n - ds.length) '0') where
  ne_nil h := by
    have hlen := congrArg List.length h
    simp only [List.length_append, List.length_take, List.length_replicate,
      List.length_nil] at hlen
    omega
  isDigit c hc := by
    rcases List.mem_append.1 hc with hc | hc
    · exact hds c (List.mem_of_mem_take hc)
    · exact isDigit_of_mem_zeros c hc

private theorem isDigits_fraction {ds : Text} (n : Nat) (hds : ∀ c ∈ ds, c.isDigit = true) :
    IsDigits (if (ds.drop n).isEmpty then ['0'] else ds.drop n) := by
  split
  · exact ⟨by simp, by simp⟩
  · next hne => exact ⟨by simpa using hne, fun c hc => hds c (List.mem_of_mem_drop hc)⟩

private theorem isLegal_numeral (x : Binary64) : x.numeral.IsLegal := by
  unfold numeral
  by_cases hm : x.mantissa = 0
  · simp only [hm, if_true]
    exact ⟨⟨by simp, by simp⟩, by simp, by simpa using ⟨by simp, by simp⟩, by simp⟩
  · have hcases := scientific_cases (shortest_ne_zero hm)
    generalize scientific x.shortest.1 x.shortest.2 = s at hcases ⊢
    obtain ⟨ds, k⟩ := s
    simp only [hm, if_false]
    have hdigit : ∀ c ∈ ds, c.isDigit = true := by
      rcases hcases with h | h
      · simp [(Prod.mk.inj h).1]
      · exact h.1.isDigit
    by_cases hp : 0 ≤ k ∧ k ≤ 15
    · simp only [hp, and_self, if_true]
      refine ⟨isDigits_whole hdigit (Nat.succ_pos _), fun hlen => ?_, ?_, by simp⟩
      · rcases hcases with h | h
        · obtain ⟨rfl, rfl⟩ := Prod.mk.inj h
          simp at hlen
        · obtain ⟨c, w, rfl⟩ := List.exists_cons_of_ne_nil h.1.ne_nil
          simpa using h.2
      · intro fraction hf
        rw [← Option.some.inj hf]
        exact isDigits_fraction _ hdigit
    · simp only [hp, if_false]
      -- only zero has no digits, and its exponent is zero
      have hds : IsDigits ds ∧ ds.head? ≠ some '0' := by
        rcases hcases with h | h
        · obtain ⟨rfl, rfl⟩ := Prod.mk.inj h
          exact absurd ⟨by decide, by decide⟩ hp
        · exact h
      by_cases hs : -5 ≤ k ∧ k < 0
      · simp only [hs, and_self, if_true]
        refine ⟨⟨by simp, by simp⟩, by simp, ?_, by simp⟩
        intro fraction hf
        rw [← Option.some.inj hf]
        refine ⟨by simp [hds.1.ne_nil], fun c hc => ?_⟩
        rcases List.mem_append.1 hc with hc | hc
        · exact isDigit_of_mem_zeros c hc
        · exact hdigit c hc
      · simp only [hs, if_false]
        have hone := isDigits_whole (n := 1) hdigit (by decide)
        have hlen : 1 - ds.length = 0 := by
          have := List.length_pos_of_ne_nil hds.1.ne_nil
          omega
        rw [hlen, List.replicate_zero, List.append_nil] at hone
        refine ⟨hone, fun h => ?_, ?_, ?_⟩
        · exact absurd h (by simp only [List.length_take]; omega)
        · intro fraction hf
          split at hf
          · simp at hf
          · next hne =>
            rw [← Option.some.inj hf]
            exact ⟨by simpa using hne, fun c hc => hdigit c (List.mem_of_mem_drop hc)⟩
        · intro e he
          rw [← Option.some.inj he]
          exact isDigits_toDigits _

end Binary64

theorem Number.isSome_read?_text (n : Number) : (Numeral.read? n.text).isSome = true := by
  cases n with
  | int n =>
    have h := Numeral.read?_text (Numeral.isLegal_ofNat (decide (n < 0)) n.natAbs)
    rw [Numeral.text_ofNat] at h
    simp only [decide_eq_true_eq] at h
    simp only [text, intText, h, Option.isSome_some]
  | real x =>
    rw [text, ← x.text_numeral, Numeral.read?_text x.isLegal_numeral, Option.isSome_some]

end Scratchpad.Json
