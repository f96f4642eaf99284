import Mathlib.Data.List.Induction
import Mathlib.Data.List.Pairwise
import Scratchpad.Proofs.Recovery.Nesting

/-!
The ranges that the scan for braces finds. `Braces.pairs` lists all pairs of braces of a text, and
what the scan has found at any time are the outermost of the pairs that are closed by then
(`Braces.Covers`), so in the end it finds the outermost of all (`Braces.groups_outermost`). Only four
characters count, so that a text may just as well stand for a string of bytes.
-/

set_option autoImplicit false
set_option relaxedAutoImplicit false

namespace Scratchpad.Braces

/-- The pairs of braces in a text that starts at a position, in the order in which they are closed.
These braces are open before it, the innermost first. -/
def pairsFrom : (opens : List Nat) → Quotation → (position : Nat) → Text → List (Nat × Nat)
  | _, _, _, [] => []
  | opens, .escaped, n, _ :: t => pairsFrom opens .inside (n + 1) t
  | opens, .inside, n, c :: t =>
    let q := if c = '\\' then .escaped else if c = '"' then .outside else .inside
    pairsFrom opens q (n + 1) t
  | [], .outside, n, c :: t => pairsFrom (if c = '\x7b' then [n] else []) .outside (n + 1) t
  | o :: os, .outside, n, c :: t =>
    if c = '"' then pairsFrom (o :: os) .inside (n + 1) t
    else if c = '\x7b' then pairsFrom (n :: o :: os) .outside (n + 1) t
    else if c = '\x7d' then (o, n) :: pairsFrom os .outside (n + 1) t
    else pairsFrom (o :: os) .outside (n + 1) t

def pairs (t : Text) : List (Nat × Nat) :=
  pairsFrom [] .outside 0 t

/-- A pair that lies in no other pair. -/
def IsOutermost (ps : List (Nat × Nat)) (p : Nat × Nat) : Prop :=
  p ∈ ps ∧ ∀ q ∈ ps, q.1 ≤ p.1 → p.2 ≤ q.2 → q = p

/-- A pair that is closed after another one holds it or opens behind it. -/
def ClosedAfter (p q : Nat × Nat) : Prop :=
  p.2 < q.2 ∧ (q.1 < p.1 ∨ p.2 < q.1)

private theorem run_groups (s : Scan) (n : Nat) (t : Text) :
    (run s n t).groups =
      (pairsFrom s.opens s.quotation n t).foldl (fun gs p => close gs p.1 p.2) s.groups := by
  induction t generalizing s n with
  | nil => rw [run, pairsFrom, List.foldl_nil]
  | cons c t ih =>
    obtain ⟨opens, groups, q⟩ := s
    rw [run, ih]
    cases q with
    | escaped => rfl
    | inside =>
      simp only [step, pairsFrom]
      split_ifs <;> rfl
    | outside =>
      cases opens with
      | nil =>
        simp only [step, pairsFrom, List.isEmpty_nil, if_true]
        split_ifs <;> simp_all
      | cons o os =>
        simp only [step, pairsFrom, List.isEmpty_cons, Bool.false_eq_true, if_false]
        split_ifs <;> rfl

/-- A pair that is closed from a position on, and that opens with one of these braces or from that
position on, too. -/
structure Fits (full : Text) (opens : List Nat) (n : Nat) (p : Nat × Nat) : Prop where
  opening : p.1 ∈ opens ∨ n ≤ p.1 ∧ full[p.1]? = some '\x7b'
  le : n ≤ p.2
  closing : full[p.2]? = some '\x7d'
  lt : p.1 < p.2

variable {full t : Text} {opens : List Nat} {n : Nat} {p : Nat × Nat}

theorem Fits.later (h : Fits full opens (n + 1) p) : Fits full opens n p :=
  { h with
    opening := h.opening.imp_right fun ho => ⟨Nat.le_of_succ_le ho.1, ho.2⟩
    le := Nat.le_of_succ_le h.le }

theorem Fits.opened (hn : full[n]? = some '\x7b') (h : Fits full (n :: opens) n p) :
    Fits full opens n p := by
  refine { h with opening := ?_ }
  rcases h.opening with hmem | hlater
  · rcases List.mem_cons.1 hmem with heq | hmem
    · exact Or.inr ⟨Nat.le_of_eq heq.symm, heq ▸ hn⟩
    · exact Or.inl hmem
  · exact Or.inr hlater

theorem Fits.cons (o : Nat) (h : Fits full opens n p) : Fits full (o :: opens) n p :=
  { h with opening := h.opening.imp_left (List.mem_cons_of_mem o) }

private theorem getElem?_of_drop {c : Char} (h : full.drop n = c :: t) : full[n]? = some c := by
  have hhead : (full.drop n)[0]? = full[n + 0]? := List.getElem?_drop
  rw [h, Nat.add_zero] at hhead
  exact hhead.symm

private theorem drop_succ_of_drop {c : Char} (h : full.drop n = c :: t) : full.drop (n + 1) = t
    := by
  rw [← List.drop_drop, h, List.drop_succ_cons, List.drop_zero]

private theorem forall_lt_succ (h : ∀ o ∈ opens, o < n) : ∀ o ∈ opens, o < n + 1 :=
  fun o ho => Nat.lt_succ_of_lt (h o ho)

private theorem forall_lt_cons (h : ∀ o ∈ opens, o < n) : ∀ o ∈ n :: opens, o < n + 1 :=
  List.forall_mem_cons.2 ⟨Nat.lt_succ_self n, forall_lt_succ h⟩

private theorem fits_of_mem_pairsFrom {q : Quotation} (hfull : full.drop n = t)
    (hopens : ∀ o ∈ opens, o < n) (hp : p ∈ pairsFrom opens q n t) : Fits full opens n p := by
  fun_induction pairsFrom opens q n t with
  | case1 => cases hp
  | case2 opens n c t ih =>
    exact (ih (drop_succ_of_drop hfull) (forall_lt_succ hopens) hp).later
  | case3 opens n c t q ih =>
    exact (ih (drop_succ_of_drop hfull) (forall_lt_succ hopens) hp).later
  | case4 n c t ih =>
    split_ifs at ih hp with hc
    · subst hc
      exact (ih (drop_succ_of_drop hfull) (forall_lt_cons hopens) hp).later.opened
        (getElem?_of_drop hfull)
    · exact (ih (drop_succ_of_drop hfull) (forall_lt_succ hopens) hp).later
  | case5 o os n t ih =>
    exact (ih (drop_succ_of_drop hfull) (forall_lt_succ hopens) hp).later
  | case6 o os n t hc ih =>
    exact (ih (drop_succ_of_drop hfull) (forall_lt_cons hopens) hp).later.opened
      (getElem?_of_drop hfull)
  | case7 o os n t hquote hbrace ih =>
    rw [List.forall_mem_cons] at hopens
    rcases List.mem_cons.1 hp with rfl | hp
    · exact ⟨Or.inl (List.mem_cons_self ..), Nat.le_refl n, getElem?_of_drop hfull, hopens.1⟩
    · exact (ih (drop_succ_of_drop hfull) (forall_lt_succ hopens.2) hp).later.cons o
  | case8 o os n c t hquote hbrace hclose ih =>
    exact (ih (drop_succ_of_drop hfull) (forall_lt_succ hopens) hp).later

private theorem pairwise_pairsFrom {q : Quotation} (hfull : full.drop n = t)
    (hopens : ∀ o ∈ opens, o < n) (hnested : opens.Pairwise (· > ·)) :
    (pairsFrom opens q n t).Pairwise ClosedAfter := by
  fun_induction pairsFrom opens q n t with
  | case1 => exact .nil
  | case2 opens n c t ih =>
    exact ih (drop_succ_of_drop hfull) (forall_lt_succ hopens) hnested
  | case3 opens n c t q ih =>
    exact ih (drop_succ_of_drop hfull) (forall_lt_succ hopens) hnested
  | case4 n c t ih =>
    split_ifs at ih ⊢
    · exact ih (drop_succ_of_drop hfull) (forall_lt_cons hopens) (List.pairwise_singleton ..)
    · exact ih (drop_succ_of_drop hfull) (forall_lt_succ hopens) .nil
  | case5 o os n t ih =>
    exact ih (drop_succ_of_drop hfull) (forall_lt_succ hopens) hnested
  | case6 o os n t hc ih =>
    exact ih (drop_succ_of_drop hfull) (forall_lt_cons hopens)
      (List.pairwise_cons.2 ⟨hopens, hnested⟩)
  | case7 o os n t hquote hbrace ih =>
    rw [List.forall_mem_cons] at hopens
    rw [List.pairwise_cons] at hnested
    have hdrop := drop_succ_of_drop hfull
    refine .cons (fun p hp => ?_) (ih hdrop (forall_lt_succ hopens.2) hnested.2)
    have hfits := fits_of_mem_pairsFrom hdrop (forall_lt_succ hopens.2) hp
    refine ⟨hfits.le, ?_⟩
    rcases hfits.opening with hmem | hlater
    · exact Or.inl (hnested.1 p.1 hmem)
    · exact Or.inr hlater.1
  | case8 o os n c t hquote hbrace hclose ih =>
    exact ih (drop_succ_of_drop hfull) (forall_lt_succ hopens) hnested

/-- The braces of a pair stand in the text, the opening one before the closing one. -/
structure IsPair (t : Text) (p : Nat × Nat) : Prop where
  opening : t[p.1]? = some '\x7b'
  closing : t[p.2]? = some '\x7d'
  lt : p.1 < p.2

private theorem isPair_of_mem_pairs (hp : p ∈ pairs t) : IsPair t p := by
  have hfits : Fits t [] 0 p := fits_of_mem_pairsFrom List.drop_zero (by simp) hp
  exact ⟨(hfits.opening.resolve_left List.not_mem_nil).2, hfits.closing, hfits.lt⟩

private theorem pairwise_pairs (t : Text) : (pairs t).Pairwise ClosedAfter :=
  pairwise_pairsFrom List.drop_zero (by simp) .nil

/-- Ranges, the latest first, that are those of the outermost of these pairs. -/
structure Covers (ps gs : List (Nat × Nat)) : Prop where
  apart : gs.Pairwise fun g g' => g'.2 ≤ g.1
  mem_iff : ∀ g, g ∈ gs ↔ ∃ p, IsOutermost ps p ∧ g = (p.1, p.2 + 1)
  covered : ∀ p ∈ ps, ∃ g ∈ gs, g.1 ≤ p.1 ∧ p.2 < g.2

theorem Covers.nil : Covers [] [] where
  apart := .nil
  mem_iff g := by simp [IsOutermost]
  covered p hp := by cases hp

private theorem Covers.pairwise_fst {ps gs : List (Nat × Nat)} (h : Covers ps gs)
    (hlt : ∀ q ∈ ps, q.1 < q.2) : gs.Pairwise fun g g' => g'.1 ≤ g.1 := by
  refine h.apart.imp_of_mem fun {g g'} _ hg' hapart => ?_
  obtain ⟨q, hq, rfl⟩ := (h.mem_iff g').1 hg'
  have hq' := hlt q hq.1
  simp only at hapart ⊢
  omega

private theorem mem_dropWhile_iff {gs : List (Nat × Nat)} (h : gs.Pairwise fun g g' => g'.1 ≤ g.1)
    {o : Nat} {g : Nat × Nat} : g ∈ (gs.dropWhile fun g => o < g.1) ↔ g ∈ gs ∧ g.1 ≤ o := by
  induction gs with
  | nil => simp
  | cons g₀ gs ih =>
    rw [List.pairwise_cons] at h
    by_cases ho : o < g₀.1
    · rw [List.dropWhile_cons, if_pos (decide_eq_true ho), ih h.2, List.mem_cons]
      constructor
      · exact fun hg => ⟨Or.inr hg.1, hg.2⟩
      · rintro ⟨rfl | hg, hle⟩
        · omega
        · exact ⟨hg, hle⟩
    · rw [List.dropWhile_cons, if_neg (by simpa using ho)]
      refine ⟨fun hg => ⟨hg, ?_⟩, fun hg => hg.1⟩
      rcases List.mem_cons.1 hg with rfl | hg
      · omega
      · have := h.1 g hg
        omega

private theorem isOutermost_concat_iff {ps : List (Nat × Nat)} (hlt : ∀ q ∈ ps, q.1 < q.2)
    (hafter : ∀ q ∈ ps, ClosedAfter q p) {q : Nat × Nat} :
    IsOutermost (ps ++ [p]) q ↔ q = p ∨ IsOutermost ps q ∧ q.1 ≤ p.1 := by
  constructor
  · rintro ⟨hq, hmax⟩
    rcases List.mem_append.1 hq with hq | hq
    · refine Or.inr ⟨⟨hq, fun r hr => hmax r (List.mem_append_left _ hr)⟩, ?_⟩
      have hclosed := hafter q hq
      by_contra hle
      have heq : p = q := hmax p (List.mem_append_right _ (List.mem_singleton_self p)) (by omega)
        (Nat.le_of_lt hclosed.1)
      rw [heq] at hle
      omega
    · exact Or.inl (List.mem_singleton.1 hq)
  · rintro (rfl | ⟨⟨hq, hmax⟩, hle⟩)
    · refine ⟨List.mem_append_right _ (List.mem_singleton_self q), fun r hr hfst hsnd => ?_⟩
      rcases List.mem_append.1 hr with hr | hr
      · have hclosed := (hafter r hr).1
        omega
      · exact List.mem_singleton.1 hr
    · refine ⟨List.mem_append_left _ hq, fun r hr hfst hsnd => ?_⟩
      rcases List.mem_append.1 hr with hr | hr
      · exact hmax r hr hfst hsnd
      · obtain rfl := List.mem_singleton.1 hr
        have hclosed := (hafter q hq).2
        have := hlt q hq
        omega

/-- Closing a pair keeps the ranges those of the outermost pairs. -/
theorem Covers.close {ps gs : List (Nat × Nat)} (h : Covers ps gs) (hlt : ∀ q ∈ ps, q.1 < q.2)
    (hafter : ∀ q ∈ ps, ClosedAfter q p) : Covers (ps ++ [p]) (close gs p.1 p.2) := by
  have hkept : ∀ g, g ∈ (gs.dropWhile fun g => p.1 < g.1) ↔ g ∈ gs ∧ g.1 ≤ p.1 :=
    fun g => mem_dropWhile_iff (h.pairwise_fst hlt)
  constructor
  · refine .cons (fun g hg => ?_) (h.apart.sublist (List.dropWhile_sublist _))
    obtain ⟨hg, hle⟩ := (hkept g).1 hg
    obtain ⟨q, hq, rfl⟩ := (h.mem_iff g).1 hg
    have hclosed := (hafter q hq.1).2
    have := hlt q hq.1
    simp only at hle ⊢
    omega
  · intro g
    rw [Braces.close, List.mem_cons, hkept, h.mem_iff]
    constructor
    · rintro (rfl | ⟨⟨q, hq, rfl⟩, hle⟩)
      · exact ⟨p, (isOutermost_concat_iff hlt hafter).2 (Or.inl rfl), rfl⟩
      · exact ⟨q, (isOutermost_concat_iff hlt hafter).2 (Or.inr ⟨hq, hle⟩), rfl⟩
    · rintro ⟨q, hq, rfl⟩
      rcases (isOutermost_concat_iff hlt hafter).1 hq with rfl | ⟨hq, hle⟩
      · exact Or.inl rfl
      · exact Or.inr ⟨⟨q, hq, rfl⟩, hle⟩
  · intro q hq
    have hlast : (p.1, p.2 + 1) ∈ Braces.close gs p.1 p.2 := List.mem_cons_self ..
    rcases List.mem_append.1 hq with hq | hq
    · obtain ⟨g, hg, hfst, hsnd⟩ := h.covered q hq
      by_cases hle : g.1 ≤ p.1
      · exact ⟨g, List.mem_cons_of_mem _ ((hkept g).2 ⟨hg, hle⟩), hfst, hsnd⟩
      · -- the range goes, and the new one holds it
        have hclosed := (hafter q hq).1
        refine ⟨_, hlast, ?_, ?_⟩ <;> simp only <;> omega
    · obtain rfl := List.mem_singleton.1 hq
      exact ⟨_, hlast, Nat.le_refl _, Nat.lt_succ_self _⟩

private theorem covers_foldl {ps : List (Nat × Nat)} (hlt : ∀ q ∈ ps, q.1 < q.2)
    (hafter : ps.Pairwise ClosedAfter) :
    Covers ps (ps.foldl (fun gs p => close gs p.1 p.2) []) := by
  induction ps using List.reverseRecOn with
  | nil => exact .nil
  | append_singleton ps p ih =>
    rw [List.forall_mem_append] at hlt
    rw [List.pairwise_append] at hafter
    rw [List.foldl_append, List.foldl_cons, List.foldl_nil]
    exact (ih hlt.1 hafter.1).close hlt.1 fun q hq => hafter.2.2 q hq p (List.mem_singleton_self p)

private theorem covers_groups (t : Text) : Covers (pairs t) (groups t).reverse := by
  rw [groups, List.reverse_reverse, run_groups]
  exact covers_foldl (fun p hp => (isPair_of_mem_pairs hp).lt) (pairwise_pairs t)

private theorem eq_of_mem_of_mem {gs : List (Nat × Nat)} (h : gs.Pairwise fun g g' => g.2 ≤ g'.1)
    {g g' : Nat × Nat} (hg : g ∈ gs) (hg' : g' ∈ gs) {i : Nat} (hi : g.1 ≤ i ∧ i < g.2)
    (hi' : g'.1 ≤ i ∧ i < g'.2) : g = g' := by
  by_contra hne
  have : Std.Symm fun g g' : Nat × Nat => g.2 ≤ g'.1 ∨ g'.2 ≤ g.1 := ⟨fun _ _ => Or.symm⟩
  have hapart : gs.Pairwise fun g g' => g.2 ≤ g'.1 ∨ g'.2 ≤ g.1 := h.imp Or.inl
  have hor := hapart.forall hg hg' hne
  omega

/-- The ranges are those of the outermost pairs, in order and apart from each other. Every pair lies
in one of them, and a brace without a partner begins and ends none. -/
theorem groups_outermost (t : Text) :
    ((groups t).Pairwise fun g g' => g.1 < g'.1 ∧ g.2 ≤ g'.1) ∧
      (∀ g, g ∈ groups t ↔ ∃ p, IsOutermost (pairs t) p ∧ g = (p.1, p.2 + 1)) ∧
      (∀ p ∈ pairs t, ∃! g, g ∈ groups t ∧ g.1 ≤ p.1 ∧ p.2 < g.2) ∧
      (∀ g ∈ groups t, t[g.1]? = some '\x7b' ∧ t[g.2 - 1]? = some '\x7d' ∧ g.1 < g.2 ∧
        g.2 ≤ t.length) ∧
      (∀ i, (∀ p ∈ pairs t, p.1 ≠ i) → ∀ g ∈ groups t, g.1 ≠ i) ∧
      ∀ i, (∀ p ∈ pairs t, p.2 ≠ i) → ∀ g ∈ groups t, g.2 ≠ i + 1 := by
  have hcovers := covers_groups t
  have hmem : ∀ g, g ∈ groups t ↔ ∃ p, IsOutermost (pairs t) p ∧ g = (p.1, p.2 + 1) := by
    intro g
    rw [← hcovers.mem_iff, List.mem_reverse]
  have hpair : ∀ g ∈ groups t, ∃ p ∈ pairs t, IsPair t p ∧ g = (p.1, p.2 + 1) := by
    intro g hg
    obtain ⟨p, hp, rfl⟩ := (hmem g).1 hg
    exact ⟨p, hp.1, isPair_of_mem_pairs hp.1, rfl⟩
  have hapart : (groups t).Pairwise fun g g' => g.2 ≤ g'.1 := List.pairwise_reverse.1 hcovers.apart
  refine ⟨?_, hmem, ?_, ?_, ?_, ?_⟩
  · refine hapart.imp_of_mem fun {g g'} hg _ hle => ⟨?_, hle⟩
    obtain ⟨p, -, hp, rfl⟩ := hpair g hg
    exact Nat.lt_of_lt_of_le (Nat.lt_succ_of_lt hp.lt) hle
  · intro p hp
    have hlt := (isPair_of_mem_pairs hp).lt
    obtain ⟨g, hg, hfst, hsnd⟩ := hcovers.covered p hp
    refine ⟨g, ⟨List.mem_reverse.1 hg, hfst, hsnd⟩, fun g' hg' => ?_⟩
    exact eq_of_mem_of_mem hapart hg'.1 (List.mem_reverse.1 hg) (i := p.1) (by omega) (by omega)
  · intro g hg
    obtain ⟨p, -, hp, rfl⟩ := hpair g hg
    have hlen : p.2 < t.length := (List.getElem?_eq_some_iff.1 hp.closing).1
    exact ⟨hp.opening, hp.closing, Nat.lt_succ_of_lt hp.lt, hlen⟩
  · intro i hi g hg
    obtain ⟨p, hp, -, rfl⟩ := hpair g hg
    exact hi p hp
  · intro i hi g hg
    obtain ⟨p, hp, -, rfl⟩ := hpair g hg
    exact fun he => hi p hp (Nat.succ_injective he)

/-- A text with a brace that nothing opens, one that is never closed, and one between quotes. -/
def strays : Text :=
  "\x7d\x7b \x7b\x7d \x7b\"\x7d\"\x7b\x7d\x7d".toList

/-- The brace that is never closed does not keep the ranges behind it together. -/
theorem groups_outermost_strays :
    (10, 11) ∈ pairs strays ∧ (∃! g, g ∈ groups strays ∧ g.1 ≤ 10 ∧ 11 < g.2) ∧
      (∀ p ∈ pairs strays, p.1 ≠ 1) ∧ (∀ g ∈ groups strays, g.1 ≠ 1) ∧
      (∀ p ∈ pairs strays, p.2 ≠ 8) ∧ ∀ g ∈ groups strays, g.2 ≠ 8 + 1 := by
  have hpair : (10, 11) ∈ pairs strays := by decide
  have hopen : ∀ p ∈ pairs strays, p.1 ≠ 1 := by decide
  have hclose : ∀ p ∈ pairs strays, p.2 ≠ 8 := by decide
  obtain ⟨-, -, hcovered, -, hfirst, hlast⟩ := groups_outermost strays
  exact ⟨hpair, hcovered _ hpair, hopen, hfirst 1 hopen, hclose, hlast 8 hclose⟩

end Scratchpad.Braces
