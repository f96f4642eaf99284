import Mathlib.Data.List.Nodup
import Scratchpad.Report.Reconcile

/-!
Reconciled readings. Their lines increase strictly (`Reading.pairwise_reconcile`), they are the
lines that were reported or asked for (`Reading.mem_lines_reconcile`), and the reading of a line is
the first that was reported for it or stands for its first request (`Reading.ofLine?_reconcile`).
-/

set_option autoImplicit false
set_option relaxedAutoImplicit false

namespace Scratchpad.Reading

def lines (rs : List Reading) : List Nat :=
  rs.map (·.line)

def ofLine? (rs : List Reading) (n : Nat) : Option Reading :=
  rs.find? (·.line = n)

private theorem isSome_ofLine?_iff {rs : List Reading} {n : Nat} :
    (ofLine? rs n).isSome = true ↔ n ∈ lines rs := by
  simp [ofLine?, lines]

private theorem ofLine?_eq_none_iff {rs : List Reading} {n : Nat} :
    ofLine? rs n = none ↔ n ∉ lines rs := by
  rw [← isSome_ofLine?_iff, Option.not_isSome_iff_eq_none]

private theorem ofLine?_cons_of_ne {r : Reading} {n : Nat} (h : r.line ≠ n) (rs : List Reading) :
    ofLine? (r :: rs) n = ofLine? rs n :=
  List.find?_cons_of_neg (by simpa using h)

private theorem ofLine?_cons_self (r : Reading) (rs : List Reading) : ofLine?
    (r :: rs) r.line = some r :=
  List.find?_cons_of_pos (by simp)

private theorem ofLine?_of_mem {rs : List Reading} (h : rs.Pairwise (·.line < ·.line)) {r : Reading}
    (hr : r ∈ rs) : ofLine? rs r.line = some r := by
  induction rs with
  | nil => cases hr
  | cons q rs ih =>
    obtain ⟨hq, hrs⟩ := List.pairwise_cons.1 h
    rcases List.mem_cons.1 hr with rfl | hr
    · exact ofLine?_cons_self ..
    · rw [ofLine?_cons_of_ne (Nat.ne_of_lt (hq r hr)), ih hrs hr]

private theorem backfill_of_mem {rs : List Reading} {p : Probe} (h : p.line ∈ lines rs) :
    backfill rs p = rs := by
  have hany : rs.any (·.line = p.line) = true := by simpa [lines] using h
  rw [backfill, if_pos hany]

private theorem backfill_of_notMem {rs : List Reading} {p : Probe} (h : p.line ∉ lines rs) :
    backfill rs p = rs ++ [.unevaluated p] := by
  have hany : ¬ rs.any (·.line = p.line) = true := by simpa [lines] using h
  rw [backfill, if_neg hany]

private theorem ofLine?_backfill (rs : List Reading) (p : Probe) (n : Nat) :
    ofLine? (backfill rs p) n =
      (ofLine? rs n).or (if p.line = n then some (unevaluated p) else none) := by
  by_cases hmem : p.line ∈ lines rs
  · rw [backfill_of_mem hmem]
    by_cases hn : p.line = n
    · obtain ⟨r, hr⟩ := Option.isSome_iff_exists.1 (isSome_ofLine?_iff.2 (hn ▸ hmem))
      rw [hr, Option.some_or]
    · rw [if_neg hn, Option.or_none]
  · rw [backfill_of_notMem hmem, ofLine?, List.find?_append, ← ofLine?]
    congr 1
    by_cases hn : p.line = n <;> simp [unevaluated, hn]

private theorem ofLine?_backfills (rs : List Reading) (ps : List Probe) (n : Nat) :
    ofLine? (ps.foldl backfill rs) n =
      (ofLine? rs n).or ((ps.find? (·.line = n)).map unevaluated) := by
  induction ps generalizing rs with
  | nil => rw [List.foldl_nil, List.find?_nil, Option.map_none, Option.or_none]
  | cons p ps ih =>
    rw [List.foldl_cons, ih, ofLine?_backfill, Option.or_assoc]
    by_cases hn : p.line = n <;> simp [hn]

private theorem ofLine?_dropRepeatsOf {n m : Nat} (h : m ≠ n) (rs : List Reading) :
    ofLine? (dropRepeatsOf n rs) m = ofLine? rs m := by
  induction rs generalizing n with
  | nil => rfl
  | cons r rs ih =>
    rw [dropRepeatsOf]
    by_cases hm : m = r.line
    · subst hm
      rw [if_neg h, ofLine?_cons_self, ofLine?_cons_self]
    · split
      · rw [ih h, ofLine?_cons_of_ne (Ne.symm hm)]
      · rw [ofLine?_cons_of_ne (Ne.symm hm), ofLine?_cons_of_ne (Ne.symm hm), ih hm]

private theorem ofLine?_dropRepeats (rs : List Reading) (n : Nat) :
    ofLine? (dropRepeats rs) n = ofLine? rs n := by
  cases rs with
  | nil => rfl
  | cons r rs =>
    by_cases hn : n = r.line
    · subst hn
      rw [dropRepeats, ofLine?_cons_self, ofLine?_cons_self]
    · rw [dropRepeats, ofLine?_cons_of_ne (Ne.symm hn), ofLine?_cons_of_ne (Ne.symm hn),
        ofLine?_dropRepeatsOf hn]

private theorem pairwise_dropRepeatsOf {n : Nat} {rs : List Reading} (hn : ∀ r ∈ rs, n ≤ r.line)
    (h : rs.Pairwise (·.line ≤ ·.line)) :
    (∀ r ∈ dropRepeatsOf n rs, n < r.line) ∧ (dropRepeatsOf n rs).Pairwise (·.line < ·.line) := by
  induction rs generalizing n with
  | nil => exact ⟨by simp [dropRepeatsOf], List.Pairwise.nil⟩
  | cons r rs ih =>
    obtain ⟨hr, hrs⟩ := List.pairwise_cons.1 h
    obtain ⟨hnr, hnrs⟩ := List.forall_mem_cons.1 hn
    rw [dropRepeatsOf]
    split
    · exact ih hnrs hrs
    · next hne =>
      obtain ⟨hbehind, hrest⟩ := ih hr hrs
      have hlt : n < r.line := by omega
      refine ⟨List.forall_mem_cons.2 ⟨hlt, fun q hq => ?_⟩, List.pairwise_cons.2 ⟨hbehind, hrest⟩⟩
      exact Nat.lt_trans hlt (hbehind q hq)

private theorem pairwise_dropRepeats {rs : List Reading} (h : rs.Pairwise (·.line ≤ ·.line)) :
    (dropRepeats rs).Pairwise (·.line < ·.line) := by
  cases rs with
  | nil => exact List.Pairwise.nil
  | cons r rs =>
    obtain ⟨hr, hrs⟩ := List.pairwise_cons.1 h
    exact List.pairwise_cons.2 (pairwise_dropRepeatsOf hr hrs)

private theorem dropRepeatsOf_of_lt {n : Nat} {rs : List Reading} (hn : ∀ r ∈ rs, n < r.line)
    (h : rs.Pairwise (·.line < ·.line)) : dropRepeatsOf n rs = rs := by
  induction rs generalizing n with
  | nil => rfl
  | cons r rs ih =>
    obtain ⟨hr, hrs⟩ := List.pairwise_cons.1 h
    have hne : r.line ≠ n := Nat.ne_of_gt (hn r (List.mem_cons_self ..))
    rw [dropRepeatsOf, if_neg hne, ih hr hrs]

private theorem dropRepeats_of_pairwise {rs : List Reading} (h : rs.Pairwise (·.line < ·.line)) :
    dropRepeats rs = rs := by
  cases rs with
  | nil => rfl
  | cons r rs =>
    obtain ⟨hr, hrs⟩ := List.pairwise_cons.1 h
    rw [dropRepeats, dropRepeatsOf_of_lt hr hrs]

private theorem line_le_trans (a b c : Reading) (hab : decide (a.line ≤ b.line) = true)
    (hbc : decide (b.line ≤ c.line) = true) : decide (a.line ≤ c.line) = true := by
  rw [decide_eq_true_eq] at hab hbc ⊢
  exact Nat.le_trans hab hbc

private theorem line_le_total (a b : Reading) :
    (decide (a.line ≤ b.line) || decide (b.line ≤ a.line)) = true := by
  simpa using Nat.le_total a.line b.line

private theorem ofLine?_mergeSort (rs : List Reading) (n : Nat) :
    ofLine? (rs.mergeSort fun a b => a.line ≤ b.line) n = ofLine? rs n := by
  have hsame : (rs.filter (·.line = n)).Pairwise fun a b => decide (a.line ≤ b.line) = true := by
    refine List.pairwise_of_forall_mem_list fun a ha b hb => ?_
    simp only [List.mem_filter, decide_eq_true_eq] at ha hb ⊢
    omega
  have hsub := (List.sublist_mergeSort line_le_trans line_le_total hsame
    List.filter_sublist).filter (·.line = n)
  rw [List.filter_filter] at hsub
  simp only [Bool.and_self] at hsub
  have hlength := ((List.mergeSort_perm rs fun a b => decide (a.line ≤ b.line)).filter
    (·.line = n)).length_eq
  rw [ofLine?, ofLine?, ← List.head?_filter, ← List.head?_filter,
    hsub.eq_of_length hlength.symm]

variable (requested : List Probe) (reported : List Reading)

theorem pairwise_reconcile : (reconcile requested reported).Pairwise (·.line < ·.line) := by
  have hsorted := List.pairwise_mergeSort line_le_trans line_le_total
    (requested.foldl backfill reported)
  exact pairwise_dropRepeats (hsorted.imp of_decide_eq_true)

/-- The reading of a line is the first one that was reported for it, or else that the probe of its
first request was not evaluated. -/
theorem ofLine?_reconcile (n : Nat) :
    ofLine? (reconcile requested reported) n =
      (ofLine? reported n).or ((requested.find? (·.line = n)).map unevaluated) := by
  rw [reconcile, ofLine?_dropRepeats, ofLine?_mergeSort, ofLine?_backfills]

private theorem mem_lines_reconcile {n : Nat} :
    n ∈ lines (reconcile requested reported) ↔ n ∈ lines reported ∨ n ∈ requested.map (·.line) := by
  rw [← isSome_ofLine?_iff, ofLine?_reconcile, Option.isSome_or, Bool.or_eq_true,
    isSome_ofLine?_iff, Option.isSome_map]
  simp

theorem count_lines_reconcile {p : Probe} (hp : p ∈ requested) :
    (lines (reconcile requested reported)).count p.line = 1 := by
  have hmem : p.line ∈ lines (reconcile requested reported) :=
    (mem_lines_reconcile requested reported).2 (Or.inr (List.mem_map_of_mem hp))
  have hnodup : (lines (reconcile requested reported)).Nodup :=
    List.pairwise_map.2 ((pairwise_reconcile requested reported).imp fun h => Nat.ne_of_lt h)
  exact List.count_eq_one_of_mem hnodup hmem

variable {requested reported}

private theorem reconcile_eq_self (hlines : reported.Pairwise (·.line < ·.line))
    (hanswered : ∀ p ∈ requested, p.line ∈ lines reported) :
    reconcile requested reported = reported := by
  have hfilled : requested.foldl backfill reported = reported := by
    induction requested with
    | nil => rfl
    | cons p ps ih =>
      rw [List.forall_mem_cons] at hanswered
      rw [List.foldl_cons, backfill_of_mem hanswered.1, ih hanswered.2]
  have hsorted : reported.Pairwise fun a b => decide (a.line ≤ b.line) = true :=
    hlines.imp fun h => decide_eq_true (Nat.le_of_lt h)
  rw [reconcile, hfilled, List.mergeSort_of_pairwise hsorted, dropRepeats_of_pairwise hlines]

variable (requested reported)

/-- Reconciled readings have each line that was reported or asked for once and in order. What was
reported first for a line stays as it is, a line that was only asked for has its first request as
not evaluated, and to reconcile once more changes nothing. -/
theorem reconcile_takes_first :
    (reconcile requested reported).Pairwise (·.line < ·.line) ∧
      (∀ n, n ∈ lines (reconcile requested reported) ↔
        n ∈ lines reported ∨ n ∈ requested.map (·.line)) ∧
      (∀ r ∈ reconcile requested reported,
        ofLine? reported r.line = some r ∨
          r.line ∉ lines reported ∧
            ∃ p, requested.find? (·.line = r.line) = some p ∧ r = unevaluated p) ∧
      reconcile requested (reconcile requested reported) = reconcile requested reported := by
  have hlines := pairwise_reconcile requested reported
  refine ⟨hlines, fun n => mem_lines_reconcile requested reported, fun r hr => ?_, ?_⟩
  · have hfirst := ofLine?_of_mem hlines hr
    rw [ofLine?_reconcile, Option.or_eq_some_iff] at hfirst
    refine hfirst.imp_right fun ⟨hnone, hrequest⟩ => ?_
    obtain ⟨p, hp, hpr⟩ := Option.map_eq_some_iff.1 hrequest
    exact ⟨ofLine?_eq_none_iff.1 hnone, p, hp, hpr.symm⟩
  · refine reconcile_eq_self hlines fun p hp => ?_
    exact (mem_lines_reconcile requested reported).2 (Or.inr (List.mem_map_of_mem hp))

example : reconcile [⟨2, ['b']⟩, ⟨1, ['a']⟩, ⟨2, ['c']⟩]
      [⟨3, ['x'], none, none⟩, ⟨1, ['y'], some .null, none⟩, ⟨3, ['z'], none, none⟩] =
    [⟨1, ['y'], some .null, none⟩, unevaluated ⟨2, ['b']⟩, ⟨3, ['x'], none, none⟩] := by
  cbv

end Scratchpad.Reading
