import Scratchpad.Proofs.Json.Balance
import Scratchpad.Proofs.Recovery.Nesting

/-!
The scan for braces agrees with the reader of JSON texts. Both keep track of whether they stand
between quotes and of how many braces are open, and a character does the same to either (`Track`).
In a text that is one object the outermost brace stays open up to the end, so that the scan finds
this object as a whole and nothing in it (`run_object`).
-/

set_option autoImplicit false
set_option relaxedAutoImplicit false

namespace Scratchpad

namespace Braces

/-- Whether a scan stands between quotes, and how many braces are open. -/
@[ext] structure Track where
  quotation : Quotation
  depth : Int

def Track.step (k : Track) (c : Char) : Track :=
  match k.quotation with
  | .escaped => { k with quotation := .inside }
  | .inside =>
    if c = '\\' then { k with quotation := .escaped }
    else if c = '"' then { k with quotation := .outside }
    else k
  | .outside =>
    if c = '"' then { k with quotation := .inside }
    else if c = '\x7b' then { k with depth := k.depth + 1 }
    else if c = '\x7d' then { k with depth := k.depth - 1 }
    else k

def IsPlain (c : Char) : Prop :=
  c ≠ '"' ∧ c ≠ '\x7b' ∧ c ≠ '\x7d'

theorem Track.step_plain {c : Char} (h : IsPlain c) (depth : Int) :
    Track.step ⟨.outside, depth⟩ c = ⟨.outside, depth⟩ := by
  simp [step, h.1, h.2.1, h.2.2]

private theorem isPlain_of_class {p : Char → Bool} {c : Char} (hc : p c = true)
    (hp : p '"' = false ∧ p '\x7b' = false ∧ p '\x7d' = false) : IsPlain c := by
  refine ⟨?_, ?_, ?_⟩ <;> rintro rfl <;> simp_all

def Scan.track (s : Scan) : Track :=
  ⟨s.quotation, s.opens.length⟩

private theorem Scan.track_step {s : Scan} (hopen : s.opens ≠ []) (n : Nat) (c : Char) :
    (step s n c).track = s.track.step c := by
  obtain ⟨o, os, hos⟩ := List.exists_cons_of_ne_nil hopen
  unfold step
  cases hq : s.quotation with
  | escaped => simp [track, Track.step, hq]
  | inside =>
    by_cases hslash : c = '\\'
    · simp [track, Track.step, hq, hslash]
    · by_cases hquote : c = '"' <;> simp [track, Track.step, hq, hslash, hquote]
  | outside =>
    by_cases hquote : c = '"'
    · simp [track, Track.step, hq, hquote, hopen]
    · by_cases hopening : c = '\x7b'
      · simp [track, Track.step, hq, hopening]
      · by_cases hclosing : c = '\x7d' <;>
          simp [track, Track.step, hq, hquote, hopening, hclosing, hos]

end Braces

namespace Json

open Braces (Quotation Track isPlain_of_class)

def Pending.quotation : Pending → Quotation
  | .quoted _ => .inside
  | .escaped _ => .escaped
  | _ => .outside

namespace Scanner

def track (s : Scanner) : Track :=
  ⟨s.pending.quotation, Token.balance s.found⟩

private theorem weight_of_mark? {c : Char} {t : Token} (h : mark? c = some t)
    (hopening : c ≠ '\x7b') (hclosing : c ≠ '\x7d') : t.weight = 0 := by
  unfold mark? at h
  split_ifs at h <;> first | contradiction | (obtain rfl := Option.some.inj h; rfl)

private theorem track_start {found : List Token} {c : Char} {s : Scanner}
    (h : start found c = some s) : s.track = Track.step ⟨.outside, Token.balance found⟩ c := by
  by_cases hquote : c = '"'
  · subst hquote
    obtain rfl := Option.some.inj h
    rfl
  by_cases hopening : c = '\x7b'
  · subst hopening
    obtain rfl := Option.some.inj h
    exact Track.ext rfl (Int.add_comm 1 _)
  by_cases hclosing : c = '\x7d'
  · subst hclosing
    obtain rfl := Option.some.inj h
    exact Track.ext rfl (Int.add_comm (-1) _)
  rw [Track.step_plain ⟨hquote, hopening, hclosing⟩]
  unfold start at h
  split at h
  · obtain rfl := Option.some.inj h
    rfl
  · split at h
    · next t ht =>
      obtain rfl := Option.some.inj h
      simp [track, Pending.quotation, weight_of_mark? ht hopening hclosing]
    · split_ifs at h <;> obtain rfl := Option.some.inj h <;> rfl

private theorem track_step {s s' : Scanner} {c : Char} (h : s.step c = some s') :
    s'.track = s.track.step c := by
  obtain ⟨found, pending⟩ := s
  cases pending with
  | blank => exact track_start h
  | word acc =>
    simp only [Scanner.step] at h
    split at h
    · next hlower =>
      obtain rfl := Option.some.inj h
      exact (Track.step_plain (isPlain_of_class hlower (by decide)) _).symm
    · have htrack := track_start h
      have hweight : (Token.word acc.reverse).weight = 0 := rfl
      rwa [Token.balance_cons, hweight, Int.zero_add] at htrack
  | numeral acc =>
    simp only [Scanner.step] at h
    split at h
    · next hpart =>
      obtain rfl := Option.some.inj h
      exact (Track.step_plain (isPlain_of_class (p := Numeral.isPart) hpart (by decide)) _).symm
    · have htrack := track_start h
      have hweight : (Token.numeral acc.reverse).weight = 0 := rfl
      rwa [Token.balance_cons, hweight, Int.zero_add] at htrack
  | quoted acc =>
    simp only [Scanner.step] at h
    by_cases hquote : c = '"'
    · rw [if_pos hquote] at h
      obtain rfl := Option.some.inj h
      simp [track, Track.step, Pending.quotation, hquote, Token.weight]
    · rw [if_neg hquote] at h
      by_cases hslash : c = '\\'
      · rw [if_pos hslash] at h
        obtain rfl := Option.some.inj h
        simp [track, Track.step, Pending.quotation, hslash]
      · rw [if_neg hslash] at h
        obtain rfl := Option.some.inj h
        simp [track, Track.step, Pending.quotation, hslash, hquote]
  | escaped acc =>
    obtain rfl := Option.some.inj h
    rfl

private theorem track_run {t : Text} {s s' : Scanner} (h : t.foldlM Scanner.step s = some s') :
    s'.track = t.foldl Track.step s.track := by
  induction t generalizing s with
  | nil =>
    obtain rfl := Option.some.inj h
    rfl
  | cons c t ih =>
    rw [List.foldlM_cons] at h
    obtain ⟨s₁, h₁, h₂⟩ := Option.bind_eq_some_iff.1 h
    rw [ih h₂, track_step h₁, List.foldl_cons]

private theorem found_suffix_of_run {t : Text} {s s' : Scanner}
    (h : t.foldlM Scanner.step s = some s') : s.found <:+ s'.found := by
  induction t generalizing s with
  | nil =>
    obtain rfl := Option.some.inj h
    exact List.suffix_rfl
  | cons c t ih =>
    rw [List.foldlM_cons] at h
    obtain ⟨s₁, h₁, h₂⟩ := Option.bind_eq_some_iff.1 h
    exact (found_suffix_of_step h₁).trans (ih h₂)

private theorem exists_of_step_closing {s s' : Scanner} {ts : List Token}
    (h : s.step '\x7d' = some s') (hfinish : s'.finish? = some ts) :
    s.pending.quotation = .outside ∧
      ∃ found, s.found <:+ found ∧ Token.balance found = Token.balance s.found ∧
        ts = (.closeObject :: found).reverse := by
  obtain ⟨found, pending⟩ := s
  cases pending with
  | blank =>
    obtain rfl := Option.some.inj h
    exact ⟨rfl, found, List.suffix_rfl, rfl, (Option.some.inj hfinish).symm⟩
  | word acc =>
    obtain rfl := Option.some.inj h
    exact ⟨rfl, _, List.suffix_cons .., Int.zero_add _, (Option.some.inj hfinish).symm⟩
  | numeral acc =>
    obtain rfl := Option.some.inj h
    exact ⟨rfl, _, List.suffix_cons .., Int.zero_add _, (Option.some.inj hfinish).symm⟩
  | quoted acc =>
    obtain rfl := Option.some.inj h
    cases hfinish
  | escaped acc =>
    obtain rfl := Option.some.inj h
    cases hfinish

end Scanner

private theorem Tree.track_of_read? {t : Text} {tree : Tree}
    (h : Tree.read? ('\x7b' :: (t ++ ['\x7d'])) = some tree) :
    t.foldl Track.step ⟨.outside, 1⟩ = ⟨.outside, 1⟩ ∧
      ∀ x, x <+: t → 0 < (x.foldl Track.step ⟨.outside, 1⟩).depth := by
  obtain ⟨ts, hscan, hread⟩ := Option.bind_eq_some_iff.1 h
  obtain ⟨s', hrun, hfinish⟩ := Option.bind_eq_some_iff.1 hscan
  rw [List.foldlM_cons] at hrun
  obtain ⟨s₀, h₀, hrun⟩ := Option.bind_eq_some_iff.1 hrun
  obtain rfl := Option.some.inj h₀
  rw [List.foldlM_append] at hrun
  obtain ⟨s, hs, hlast⟩ := Option.bind_eq_some_iff.1 hrun
  rw [List.foldlM_cons] at hlast
  obtain ⟨s₁, hclosing, hnil⟩ := Option.bind_eq_some_iff.1 hlast
  obtain rfl := Option.some.inj hnil
  obtain ⟨houtside, found, hfound, hbalance, rfl⟩ := Scanner.exists_of_step_closing hclosing hfinish
  have htrack : s.track = t.foldl Track.step ⟨.outside, 1⟩ := Scanner.track_run hs
  constructor
  -- The tokens of a tree balance, and only the closing brace stands behind the text.
  · have hzero := Tree.balance_eq_zero hread
    rw [Token.balance_reverse, Token.balance_cons, Token.weight] at hzero
    rw [← htrack]
    have hdepth : Token.balance s.found = 1 := by omega
    exact Track.ext houtside hdepth
  · rintro x ⟨y, rfl⟩
    rw [List.foldlM_append] at hs
    obtain ⟨sx, hx, hy⟩ := Option.bind_eq_some_iff.1 hs
    have hdepth : Token.balance sx.found = (x.foldl Track.step ⟨.outside, 1⟩).depth :=
      congrArg Track.depth (Scanner.track_run hx)
    obtain ⟨u, hu⟩ := Scanner.found_suffix_of_run hx
    obtain ⟨v, hv⟩ := (Scanner.found_suffix_of_run hy).trans hfound
    rw [← hv, ← hu] at hread
    simp only [List.reverse_cons, List.reverse_append, List.reverse_nil, List.nil_append,
      List.cons_append, List.append_assoc] at hread
    -- A proper beginning of the tokens of a tree still has a bracket open.
    have hpos := Tree.balance_pos hread (by simp)
    rw [← hdepth, ← hu, ← Token.balance_reverse]
    simpa using hpos

end Json

namespace Braces

/-- The scan stands in the pair that opens at a position, and all else that it has met does, too. -/
structure Scan.Inside (s : Scan) (n : Nat) : Prop where
  opens : ∃ inner, s.opens = inner ++ [n] ∧ ∀ o ∈ inner, n < o
  groups : ∀ g ∈ s.groups, n < g.1

private theorem Scan.Inside.opens_ne_nil {s : Scan} {n : Nat} (h : s.Inside n) : s.opens ≠ [] := by
  obtain ⟨inner, hinner, -⟩ := h.opens
  simp [hinner]

theorem Scan.Inside.step {s : Scan} {n m : Nat} (h : s.Inside n) (hm : n < m) {c : Char}
    (hopen : (Braces.step s m c).opens ≠ []) : (Braces.step s m c).Inside n := by
  obtain ⟨inner, hinner, hlt⟩ := h.opens
  obtain ⟨q, hstep⟩ | hstep | ⟨o, os, heq, hstep⟩ := step_cases s m c
  · rw [hstep]
    exact ⟨h.opens, h.groups⟩
  · rw [hstep]
    refine ⟨⟨m :: inner, by rw [hinner, List.cons_append], ?_⟩, h.groups⟩
    exact List.forall_mem_cons.2 ⟨hm, hlt⟩
  · rw [hstep] at hopen ⊢
    cases inner with
    | nil =>
      -- the pair itself would be closed
      rw [hinner, List.nil_append, List.cons.injEq] at heq
      exact absurd heq.2.symm hopen
    | cons i inner =>
      rw [hinner, List.cons_append, List.cons.injEq] at heq
      obtain ⟨rfl, rfl⟩ := heq
      rw [List.forall_mem_cons] at hlt
      refine ⟨⟨inner, rfl, hlt.2⟩, ?_⟩
      rw [close, List.forall_mem_cons]
      exact ⟨hlt.1, fun g hg => h.groups g ((List.dropWhile_sublist _).subset hg)⟩

theorem Scan.Inside.run {s : Scan} {n m : Nat} (h : s.Inside n) (hm : n < m) {t : Text}
    (hpos : ∀ x, x <+: t → 0 < (x.foldl Track.step s.track).depth) :
    (Braces.run s m t).Inside n ∧ (Braces.run s m t).track = t.foldl Track.step s.track := by
  induction t generalizing s m with
  | nil => exact ⟨h, rfl⟩
  | cons c t ih =>
    have htrack := Scan.track_step h.opens_ne_nil m c
    have hopen : (Braces.step s m c).opens ≠ [] := by
      have hdepth := hpos [c] (List.cons_prefix_cons.2 ⟨rfl, List.nil_prefix⟩)
      rw [List.foldl_cons, List.foldl_nil, ← htrack] at hdepth
      intro hnil
      simp [Scan.track, hnil] at hdepth
    rw [Braces.run, List.foldl_cons, ← htrack]
    refine ih (h.step hm hopen) (Nat.lt_succ_of_lt hm) fun x hx => ?_
    rw [htrack]
    exact hpos (c :: x) (List.cons_prefix_cons.2 ⟨rfl, hx⟩)

/-- The scan finds an object as a whole, and nothing in it. -/
theorem run_object {t : Text} {tree : Json.Tree}
    (h : Json.Tree.read? ('\x7b' :: (t ++ ['\x7d'])) = some tree) (n : Nat) :
    run {} n ('\x7b' :: (t ++ ['\x7d'])) =
      { groups := [(n, n + ('\x7b' :: (t ++ ['\x7d'])).length)] } := by
  obtain ⟨hwhole, hpos⟩ := Json.Tree.track_of_read? h
  have hopening : step {} n '\x7b' = ⟨[n], [], .outside⟩ := rfl
  have hstart : Scan.Inside ⟨[n], [], .outside⟩ n := ⟨⟨[], rfl, by simp⟩, by simp⟩
  obtain ⟨hinside, htrack⟩ := hstart.run (Nat.lt_succ_self n) hpos
  rw [run, hopening, run_append]
  generalize run ⟨[n], [], .outside⟩ (n + 1) t = s at hinside htrack
  have hone : s.track = ⟨.outside, 1⟩ := htrack.trans hwhole
  obtain ⟨inner, hinner, -⟩ := hinside.opens
  have hopens : s.opens = [n] := by
    have hlength := congrArg Track.depth hone
    simp only [Scan.track, hinner, List.length_append, List.length_singleton] at hlength
    have hnil : inner = [] := List.length_eq_zero_iff.1 (by omega)
    rw [hinner, hnil, List.nil_append]
  have hquotation : s.quotation = .outside := congrArg Track.quotation hone
  have hclose : close (s.groups ++ []) n (n + 1 + t.length) = [(n, n + 1 + t.length + 1)] :=
    close_append hinside.groups (by simp) _
  rw [List.append_nil] at hclose
  have hlength : n + ('\x7b' :: (t ++ ['\x7d'])).length = n + 1 + t.length + 1 := by
    simp only [List.length_cons, List.length_append, List.length_nil]
    omega
  rw [hlength]
  simp [run, step, hquotation, hopens, hclose]

end Braces

end Scratchpad
