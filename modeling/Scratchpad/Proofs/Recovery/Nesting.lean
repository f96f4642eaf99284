import Scratchpad.Proofs.Json.WellFormed
import Scratchpad.Recovery.Braces

/-!
Braces in the beginning of a JSON text. The scan keeps step with the objects of the text: while an
outer brace is open, the pairs that it has found are the outermost objects that are complete so far
(`Braces.findsObjects_compact`). `Tree.completeIn` gives these objects for a text that is cut off.
-/

set_option autoImplicit false
set_option relaxedAutoImplicit false

namespace Scratchpad

namespace Json.Tree

mutual

/-- The outermost objects of a tree that are complete within the first characters of its text. -/
def completeIn : (length : Nat) → Tree → List Tree
  | 0, _ => []
  | k + 1, .object ms =>
    if (compact (.object ms)).length ≤ k + 1 then [.object ms] else completeMembers k ms
  | k + 1, .array ts => completeItems k ts
  | _ + 1, _ => []

def completeItems : (length : Nat) → List Tree → List Tree
  | _, [] => []
  | k, t :: ts => completeIn k t ++ completeItems (k - (compact t).length - 1) ts

def completeMembers : (length : Nat) → List (Text × Tree) → List Tree
  | _, [] => []
  | k, (key, t) :: ms =>
    completeIn (k - ((quote key).length + 1)) t ++
      completeMembers (k - ((quote key).length + 1) - (compact t).length - 1) ms

end

private theorem completeIn_zero (t : Tree) : completeIn 0 t = [] := by
  rw [completeIn]

private theorem completeItems_zero (ts : List Tree) : completeItems 0 ts = [] := by
  induction ts with
  | nil => rw [completeItems]
  | cons t ts ih => rw [completeItems, completeIn_zero, Nat.zero_sub, ih, List.append_nil]

private theorem completeMembers_zero (ms : List (Text × Tree)) : completeMembers 0 ms = [] := by
  induction ms with
  | nil => rw [completeMembers]
  | cons m ms ih =>
    rw [completeMembers, Nat.zero_sub, completeIn_zero, Nat.zero_sub, ih, List.append_nil]

end Json.Tree

namespace Braces

open Json

theorem run_append (s : Scan) (n : Nat) (x y : Text) :
    run s n (x ++ y) = run (run s n x) (n + x.length) y := by
  induction x generalizing s n with
  | nil => rfl
  | cons c x ih => rw [List.cons_append, run, run, ih, List.length_cons, Nat.succ_add_eq_add_succ]

theorem run_outside {t : Text} (h : '\x7b' ∉ t) (n : Nat) : run {} n t = {} := by
  induction t generalizing n with
  | nil => rfl
  | cons c t ih =>
    rw [List.mem_cons, not_or] at h
    have hstep : step {} n c = {} := by simp [step, Ne.symm h.1]
    rw [run, hstep, ih h.2]

theorem step_cases (s : Scan) (n : Nat) (c : Char) :
    (∃ q, step s n c = { s with quotation := q }) ∨
      step s n c = { s with opens := n :: s.opens } ∨
      ∃ o os, s.opens = o :: os ∧
        step s n c = { s with opens := os, groups := close s.groups o n } := by
  unfold step
  split
  · exact Or.inl ⟨.inside, rfl⟩
  · split_ifs
    · exact Or.inl ⟨.escaped, rfl⟩
    · exact Or.inl ⟨.outside, rfl⟩
    · exact Or.inl ⟨s.quotation, rfl⟩
  · split_ifs
    · exact Or.inl ⟨s.quotation, rfl⟩
    · exact Or.inl ⟨.inside, rfl⟩
    · exact Or.inr (Or.inl rfl)
    · split
      · exact Or.inl ⟨s.quotation, rfl⟩
      · next o os heq => exact Or.inr (Or.inr ⟨o, os, heq, rfl⟩)
    · exact Or.inl ⟨s.quotation, rfl⟩

/-- All that the scan has met lies before a position. -/
structure Scan.Before (s : Scan) (n : Nat) : Prop where
  opens : ∀ o ∈ s.opens, o < n
  groups : ∀ g ∈ s.groups, g.1 < n

theorem Scan.Before.close {gs : List (Nat × Nat)} {n o : Nat} (hg : ∀ g ∈ gs, g.1 < n)
    (ho : o < n) (c : Nat) : ∀ g ∈ Braces.close gs o c, g.1 < n := by
  rw [Braces.close, List.forall_mem_cons]
  exact ⟨ho, fun g h => hg g ((List.dropWhile_sublist _).subset h)⟩

theorem Scan.Before.step {s : Scan} {n : Nat} (h : s.Before n) (c : Char) :
    (Braces.step s n c).Before (n + 1) := by
  have hs : s.Before (n + 1) :=
    ⟨fun o ho => Nat.lt_succ_of_lt (h.opens o ho), fun g hg => Nat.lt_succ_of_lt (h.groups g hg)⟩
  obtain ⟨q, hstep⟩ | hstep | ⟨o, os, heq, hstep⟩ := step_cases s n c
  · rw [hstep]
    exact ⟨hs.opens, hs.groups⟩
  · rw [hstep]
    exact ⟨List.forall_mem_cons.2 ⟨Nat.lt_succ_self n, hs.opens⟩, hs.groups⟩
  · have hopens := hs.opens
    rw [heq, List.forall_mem_cons] at hopens
    rw [hstep]
    exact ⟨hopens.2, Scan.Before.close hs.groups hopens.1 n⟩

theorem Scan.Before.run {s : Scan} {n : Nat} (h : s.Before n) (t : Text) :
    (Braces.run s n t).Before (n + t.length) := by
  induction t generalizing s n with
  | nil => exact h
  | cons c t ih =>
    rw [List.length_cons, ← Nat.succ_add_eq_add_succ]
    exact ih (h.step c)

/-- The scan stands in a pair, not between quotes, and all that it has met lies before a
position. -/
structure Scan.Ready (s : Scan) (n : Nat) : Prop where
  outside : s.quotation = .outside
  nested : s.opens ≠ []
  before : s.Before n

/-- Ranges, the latest first, that hold the texts of these objects and start at a position or behind
it. -/
structure Holds (full : Text) (n : Nat) (xs : List Tree) (gs : List (Nat × Nat)) : Prop where
  start : ∀ g ∈ gs, n ≤ g.1
  texts : gs.reverse.map (slice full) = xs.map Tree.compact

theorem Holds.nil (full : Text) (n : Nat) : Holds full n [] [] :=
  ⟨by simp, rfl⟩

theorem Holds.append {full : Text} {m n : Nat} {xs ys : List Tree} {gs hs : List (Nat × Nat)}
    (hx : Holds full m xs gs) (hy : Holds full n ys hs) (h : m ≤ n) :
    Holds full m (xs ++ ys) (hs ++ gs) where
  start g hg := by
    rcases List.mem_append.1 hg with hg | hg
    · exact h.trans (hy.start g hg)
    · exact hx.start g hg
  texts := by rw [List.reverse_append, List.map_append, List.map_append, hx.texts, hy.texts]

/-- In the first characters of a text that stands in a pair the scan finds these objects. When it
has read the whole text, it stands in the same pair as before. -/
def Finds (text : Text) (xs : Nat → List Tree) : Prop :=
  ∀ (full before : Text) (k : Nat) (s : Scan),
    before ++ text.take k <+: full → s.Ready before.length →
    ∃ gs, Holds full before.length (xs k) gs ∧
      (run s before.length (text.take k)).groups = gs ++ s.groups ∧
      (text.length ≤ k →
        run s before.length (text.take k) = { s with groups := gs ++ s.groups })

theorem Finds.congr {text : Text} {xs ys : Nat → List Tree} (h : Finds text xs)
    (he : ∀ k, ys k = xs k) : Finds text ys := by
  obtain rfl : ys = xs := funext he
  exact h

theorem Finds.append {x y : Text} {xs ys : Nat → List Tree} (hx : Finds x xs) (hy : Finds y ys)
    (hzero : ys 0 = []) : Finds (x ++ y) fun k => xs k ++ ys (k - x.length) := by
  intro full before k s hp hs
  rw [List.take_append, ← List.append_assoc] at hp
  obtain ⟨gs, hgs, hrun, hwhole⟩ :=
    hx full before k s ((List.prefix_append _ _).trans hp) hs
  rw [List.take_append]
  rcases Nat.lt_or_ge k x.length with hk | hk
  · -- the text is cut off in its first part
    have hk0 : k - x.length = 0 := by omega
    dsimp only
    rw [hk0, hzero, List.take_zero, List.append_nil, List.append_nil]
    exact ⟨gs, hgs, hrun, fun hlen => by rw [List.length_append] at hlen; omega⟩
  · rw [List.take_of_length_le hk] at hp hwhole ⊢
    have hwhole := hwhole hk
    have hs' : Scan.Ready { s with groups := gs ++ s.groups } (before ++ x).length :=
      ⟨hs.outside, hs.nested, by
        rw [← hwhole, List.length_append]
        exact hs.before.run x⟩
    obtain ⟨gs', hgs', hrun', hwhole'⟩ := hy full (before ++ x) (k - x.length) _ hp hs'
    rw [List.length_append] at hgs' hrun' hwhole'
    rw [run_append, hwhole]
    refine ⟨gs' ++ gs, hgs.append hgs' (Nat.le_add_right ..), ?_, fun hlen => ?_⟩
    · rw [hrun', List.append_assoc]
    · rw [List.length_append] at hlen
      rw [hwhole' (by omega), List.append_assoc]

private theorem finds_nothing {text : Text}
    (hrun : ∀ (s : Scan) (n k : Nat), s.quotation = .outside →
    s.opens ≠ [] → ∃ q, run s n (text.take k) = { s with quotation := q } ∧
      (text.length ≤ k → q = .outside)) : Finds text fun _ => [] := by
  intro full before k s _ hs
  obtain ⟨q, hq, hwhole⟩ := hrun s before.length k hs.outside hs.nested
  refine ⟨[], Holds.nil _ _, by rw [hq, List.nil_append], fun hlen => ?_⟩
  rw [hq, hwhole hlen, ← hs.outside, List.nil_append]

private theorem finds_plain {text : Text}
    (h : ∀ c ∈ text, c ≠ '"' ∧ c ≠ '\x7b' ∧ c ≠ '\x7d') : Finds text fun _ => [] := by
  refine finds_nothing fun s n k hs _ => ⟨.outside, ?_, fun _ => rfl⟩
  have hk : ∀ c ∈ text.take k, c ≠ '"' ∧ c ≠ '\x7b' ∧ c ≠ '\x7d' := fun c hc =>
    h c (List.mem_of_mem_take hc)
  rw [← hs]
  generalize text.take k = t at hk
  induction t generalizing n with
  | nil => rfl
  | cons c t ih =>
    rw [List.forall_mem_cons] at hk
    have hstep : step s n c = s := by simp [step, hs, hk.1]
    rw [run, hstep]
    exact ih (n + 1) hk.2

private theorem step_inside {s : Scan} (hs : s.quotation = .inside) {c : Char}
    (hc : c ≠ '"' ∧ c ≠ '\\') (n : Nat) : step s n c = s := by
  simp [step, hs, hc]

private theorem run_inside {s : Scan} (hs : s.quotation = .inside) {t : Text}
    (ht : ∀ c ∈ t, c ≠ '"' ∧ c ≠ '\\') (n : Nat) : run s n t = s := by
  induction t generalizing n with
  | nil => rfl
  | cons c t ih =>
    rw [List.forall_mem_cons] at ht
    rw [run, step_inside hs ht.1, ih ht.2]

private theorem step_backslash {s : Scan} (hs : s.quotation = .inside) (n : Nat) :
    step s n '\\' = { s with quotation := .escaped } := by
  simp [step, hs]

private theorem step_escaped {s : Scan} (hs : s.quotation = .inside) (n : Nat) (c : Char) :
    step { s with quotation := .escaped } n c = s := by
  simp [step, ← hs]

private theorem run_take_wellFormed {body : Text} (h : Quoted.wellFormed body = true) {s : Scan}
    (hs : s.quotation = .inside) (n k : Nat) :
    ∃ q, run s n (body.take k) = { s with quotation := q } ∧ (body.length ≤ k → q = .inside) := by
  have hnil : ∀ (n : Nat) (t : Text), ∃ q, run s n (t.take 0) = { s with quotation := q } ∧
      (t.length ≤ 0 → q = .inside) := fun n t =>
    ⟨.inside, by rw [← hs, List.take_zero, run], fun _ => rfl⟩
  -- A cut may fall inside an escape, so the quotation is inside again only for the whole body.
  fun_induction Quoted.wellFormed body generalizing n k with
  | case1 => exact ⟨.inside, by rw [← hs, List.take_nil, run], fun _ => rfl⟩
  | case2 a b c d r ih =>
    rw [Bool.and_eq_true] at h
    obtain _ | _ | k := k
    · exact hnil n _
    · refine ⟨.escaped, ?_, fun hlen => by simp at hlen⟩
      rw [List.take_succ_cons, run, step_backslash hs, List.take_zero, run]
    · obtain ⟨q, hq, hlen⟩ := ih h.2 (n + 1 + 1 + ([a, b, c, d].take k).length) (k - 4)
      refine ⟨q, ?_, fun hl => hlen (by simp only [List.length_cons] at hl; omega)⟩
      have hplain : ∀ x ∈ [a, b, c, d].take k, x ≠ '"' ∧ x ≠ '\\' := fun x hx =>
        Quoted.not_quote_of_unit? h.1 x (List.mem_of_mem_take hx)
      have happend : a :: b :: c :: d :: r = [a, b, c, d] ++ r := rfl
      rw [List.take_succ_cons, run, step_backslash hs, List.take_succ_cons, run, step_escaped hs,
        happend, List.take_append, run_append, run_inside hs hplain]
      exact hq
  | case3 e r hu ih =>
    rw [Bool.and_eq_true] at h
    obtain _ | _ | k := k
    · exact hnil n _
    · refine ⟨.escaped, ?_, fun hlen => by simp at hlen⟩
      rw [List.take_succ_cons, run, step_backslash hs, List.take_zero, run]
    · obtain ⟨q, hq, hlen⟩ := ih h.2 (n + 1 + 1) k
      refine ⟨q, ?_, fun hl => hlen (by simpa using hl)⟩
      rw [List.take_succ_cons, run, step_backslash hs, List.take_succ_cons, run, step_escaped hs, hq]
  | case4 c r h1 h2 ih =>
    simp only [Bool.and_eq_true, bne_iff_ne] at h
    obtain _ | k := k
    · exact hnil n _
    · obtain ⟨q, hq, hlen⟩ := ih h.2 (n + 1) k
      refine ⟨q, ?_, fun hl => hlen (by simpa using hl)⟩
      rw [List.take_succ_cons, run, step_inside hs h.1.1, hq]

private theorem finds_quote {body : Text} (h : Quoted.wellFormed body = true) :
    Finds (Tree.quote body) fun _ => [] := by
  refine finds_nothing fun s n k hs hopen => ?_
  cases k with
  | zero => exact ⟨.outside, by rw [← hs, List.take_zero, run], fun hlen => by
      simp [Tree.quote] at hlen⟩
  | succ k =>
    have hquote : step s n '"' = { s with quotation := .inside } := by
      simp [step, hs, hopen]
    obtain ⟨q, hq, hlen⟩ :=
      run_take_wellFormed h (s := { s with quotation := .inside }) rfl (n + 1) k
    rw [Tree.quote, List.cons_append, List.take_succ_cons, run, hquote, List.take_append, run_append,
      hq]
    rcases Nat.lt_or_ge body.length k with hk | hk
    · obtain ⟨j, hj⟩ := Nat.exists_eq_add_of_lt hk
      have hone : k - body.length = j + 1 := by omega
      refine ⟨.outside, ?_, fun _ => rfl⟩
      rw [hone, List.take_succ_cons, List.take_nil, run, run, hlen hk.le]
      simp [step]
    · rw [Nat.sub_eq_zero_of_le hk, List.take_zero, run]
      refine ⟨q, rfl, fun hl => ?_⟩
      rw [List.length_cons, List.length_append, List.length_singleton] at hl
      omega

theorem slice_of_isPrefix {full before x : Text} (h : before ++ x <+: full) :
    slice full (before.length, before.length + x.length) = x := by
  obtain ⟨t, rfl⟩ := h
  rw [slice, List.append_assoc, List.drop_left, Nat.add_sub_cancel_left, List.take_left]

theorem close_append {gs hs : List (Nat × Nat)} {n : Nat} (hgs : ∀ g ∈ gs, n < g.1)
    (hhs : ∀ g ∈ hs, g.1 < n) (c : Nat) : close (gs ++ hs) n c = (n, c + 1) :: hs := by
  have hdrop : hs.dropWhile (fun g => n < g.1) = hs := by
    cases hs with
    | nil => rfl
    | cons g hs => simp [(hhs g (List.mem_cons_self ..)).le]
  rw [close, List.dropWhile_append_of_pos (fun g hg => by simpa using hgs g hg), hdrop]

theorem Finds.object {x : Text} {xs : Nat → List Tree} (hx : Finds x xs) {o : Tree}
    (ho : o.compact = '\x7b' :: x ++ ['\x7d']) :
    Finds o.compact fun
      | 0 => []
      | k + 1 => if o.compact.length ≤ k + 1 then [o] else xs k := by
  intro full before k s hp hs
  cases k with
  | zero =>
    exact ⟨[], Holds.nil _ _, by rw [List.take_zero, run, List.nil_append], fun hlen => by
      rw [ho] at hlen
      simp at hlen⟩
  | succ k =>
    have hstep : step s before.length '\x7b' = { s with opens := before.length :: s.opens } := by
      simp [step, hs.outside]
    have hready : Scan.Ready { s with opens := before.length :: s.opens }
        (before ++ ['\x7b']).length := by
      refine ⟨hs.outside, by simp, ?_⟩
      have hb := hs.before.step '\x7b'
      rw [hstep] at hb
      simpa using hb
    have htake : o.compact.take (k + 1) = '\x7b' :: (x.take k ++ ['\x7d'].take (k - x.length)) := by
      rw [ho, List.cons_append, List.take_succ_cons, List.take_append]
    have hpx : before ++ ['\x7b'] ++ x.take k <+: full := by
      refine List.IsPrefix.trans ?_ hp
      rw [htake, List.append_assoc, List.singleton_append]
      exact (List.prefix_append_right_inj _).2
        (List.cons_prefix_cons.2 ⟨rfl, List.prefix_append _ _⟩)
    -- The inside is scanned as before, with one more brace open.
    obtain ⟨gs, hgs, hrun, hwhole⟩ := hx full (before ++ ['\x7b']) k _ hpx hready
    rw [List.length_append, List.length_singleton] at hgs hrun hwhole
    have hlen : o.compact.length = x.length + 2 := by simp [ho]
    dsimp only
    rw [htake, run, hstep, run_append]
    rcases Nat.lt_or_ge x.length k with hk | hk
    · -- the pair is closed
      obtain ⟨j, hj⟩ := Nat.exists_eq_add_of_lt hk
      have hone : k - x.length = j + 1 := by omega
      have hall : o.compact.length ≤ k + 1 := by omega
      have hend : before.length + 1 + (x.take k).length + 1 =
          before.length + o.compact.length := by
        rw [List.take_of_length_le hk.le]
        omega
      have hclose := close_append (fun g hg => hgs.start g hg) hs.before.groups
        (before.length + 1 + (x.take k).length)
      rw [hend] at hclose
      rw [hwhole hk.le, hone, List.take_succ_cons, List.take_nil, run, run, if_pos hall]
      rw [List.take_of_length_le hall] at hp
      have hfinal : step { s with opens := before.length :: s.opens, groups := gs ++ s.groups }
          (before.length + 1 + (x.take k).length) '\x7d' =
          { s with groups := [(before.length, before.length + o.compact.length)] ++ s.groups } := by
        simp [step, hs.outside, hclose, -List.length_take]
      rw [hfinal]
      refine ⟨_, ⟨by simp, ?_⟩, rfl, fun _ => rfl⟩
      simp [slice_of_isPrefix hp]
    · rw [Nat.sub_eq_zero_of_le hk, List.take_zero, run, if_neg (by omega)]
      refine ⟨gs, ⟨fun g hg => (Nat.le_succ _).trans (hgs.start g hg), hgs.texts⟩, hrun, fun hl => ?_⟩
      omega

private theorem finds_comma : Finds [','] fun _ => [] :=
  finds_plain (List.forall_mem_singleton.2 (by decide))

private theorem finds_compactItems {ts : List Tree}
    (h : ∀ t ∈ ts, Finds t.compact fun k => t.completeIn k) :
    Finds (Tree.compactItems ts) fun k => Tree.completeItems k ts := by
  induction ts with
  | nil =>
    exact (finds_plain (by simp [Tree.compactItems])).congr fun k => by rw [Tree.completeItems]
  | cons t ts ih =>
    rw [List.forall_mem_cons] at h
    cases ts with
    | nil =>
      rw [Tree.compactItems]
      exact h.1.congr fun k => by rw [Tree.completeItems, Tree.completeItems, List.append_nil]
    | cons u ts =>
      rw [Tree.compactItems_cons_cons, ← List.singleton_append]
      refine (h.1.append (finds_comma.append (ih h.2) (Tree.completeItems_zero _)) ?_).congr
        fun k => ?_
      · exact Tree.completeItems_zero _
      · rw [Tree.completeItems, List.nil_append, List.length_singleton]

theorem finds_compactMembers {ms : List (Text × Tree)}
    (hkey : ∀ m ∈ ms, Quoted.wellFormed m.1 = true)
    (h : ∀ m ∈ ms, Finds m.2.compact fun k => m.2.completeIn k) :
    Finds (Tree.compactMembers ms) fun k => Tree.completeMembers k ms := by
  induction ms with
  | nil =>
    exact (finds_plain (by simp [Tree.compactMembers])).congr fun k => by rw [Tree.completeMembers]
  | cons m ms ih =>
    obtain ⟨key, t⟩ := m
    rw [List.forall_mem_cons] at hkey h
    have hcolon : Finds (Tree.quote key ++ [':']) fun _ => [] :=
      (finds_quote hkey.1).append (finds_plain (List.forall_mem_singleton.2 (by decide))) rfl
    cases ms with
    | nil =>
      rw [Tree.compactMembers, ← List.singleton_append, ← List.append_assoc]
      refine (hcolon.append h.1 (Tree.completeIn_zero _)).congr fun k => ?_
      rw [Tree.completeMembers, Tree.completeMembers, List.append_nil, List.nil_append,
        List.length_append, List.length_singleton]
    | cons n ms =>
      rw [Tree.compactMembers_cons_cons, ← List.singleton_append, ← List.append_assoc,
        ← List.singleton_append (l := Tree.compactMembers _)]
      refine (hcolon.append (h.1.append (finds_comma.append (ih hkey.2 h.2) ?_) ?_) ?_).congr
        fun k => ?_
      · exact Tree.completeMembers_zero _
      · exact Tree.completeMembers_zero _
      · rw [Tree.completeIn_zero, Nat.zero_sub, Nat.zero_sub, Tree.completeMembers_zero]
        rfl
      · rw [Tree.completeMembers, List.nil_append, List.nil_append, List.length_append,
          List.length_singleton, List.length_singleton]

/-- In the beginning of the text of a well-formed tree the scan finds the objects that are
complete. -/
theorem finds_compact {t : Tree} (h : t.WellFormed) : Finds t.compact fun k => t.completeIn k := by
  induction h with
  | null => exact (finds_plain (by simp [Tree.compact])).congr fun k => by cases k <;> simp [Tree.completeIn]
  | bool b =>
    have hplain : ∀ c ∈ (Tree.bool b).compact, c ≠ '"' ∧ c ≠ '\x7b' ∧ c ≠ '\x7d' := by
      cases b <;> simp [Tree.compact]
    exact (finds_plain hplain).congr fun k => by cases k <;> simp [Tree.completeIn]
  | @number n h =>
    obtain ⟨parts, hn⟩ := Option.isSome_iff_exists.1 h
    have hplain : ∀ c ∈ n, c ≠ '"' ∧ c ≠ '\x7b' ∧ c ≠ '\x7d' := by
      intro c hc
      have hpart := Numeral.isPart_of_read? hn c hc
      refine ⟨?_, ?_, ?_⟩ <;> rintro rfl <;> exact absurd hpart (by decide)
    rw [Tree.compact]
    exact (finds_plain hplain).congr fun k => by cases k <;> simp [Tree.completeIn]
  | @string body h =>
    rw [Tree.compact]
    exact (finds_quote h).congr fun k => by cases k <;> simp [Tree.completeIn]
  | @array ts h ih =>
    have hbracket : ∀ c, c = '[' ∨ c = ']' → Finds [c] fun _ => [] := by
      rintro c (rfl | rfl) <;> exact finds_plain (List.forall_mem_singleton.2 (by decide))
    rw [Tree.compact, List.cons_append, ← List.singleton_append]
    refine ((hbracket '[' (Or.inl rfl)).append
      ((finds_compactItems ih).append (hbracket ']' (Or.inr rfl)) rfl) ?_).congr fun k => ?_
    · rw [List.append_nil, Tree.completeItems_zero]
    · rw [List.nil_append, List.append_nil, List.length_singleton]
      cases k with
      | zero => rw [Tree.completeIn, Tree.completeItems_zero]
      | succ k => rw [Tree.completeIn, Nat.add_sub_cancel]
  | @object ms hkey h ih =>
    have ho : (Tree.object ms).compact = '\x7b' :: Tree.compactMembers ms ++ ['\x7d'] := by
      rw [Tree.compact]
    refine ((finds_compactMembers hkey ih).object ho).congr fun k => ?_
    cases k <;> rw [Tree.completeIn]

end Braces

end Scratchpad
