import Mathlib.Data.List.Basic
import Scratchpad.Json.Tree

/-!
Texts that cannot be JSON. Outside of a string no token starts with an angle bracket, and a string
holds no control character. So a text is no JSON text if an angle bracket and other characters, none
of them a quote or a backslash, stand at its end or before a control character
(`Tree.read?_eq_none_of_bracket`).
-/

set_option autoImplicit false
set_option relaxedAutoImplicit false

namespace Scratchpad.Json

/-- A character that may not stand bare in a string. -/
def isControl (c : Char) : Bool :=
  c.toNat < 0x20

private theorem Quoted.not_isControl_of_hexValue? {c : Char} (h : (hexValue? c).isSome = true) :
    isControl c = false := by
  have hle : '0' ≤ c := by
    by_contra hc
    have hca : ¬ 'a' ≤ c := fun ha => hc (Char.le_trans (by decide) ha)
    have hcA : ¬ 'A' ≤ c := fun hA => hc (Char.le_trans (by decide) hA)
    simp [hexValue?, hc, hca, hcA] at h
  have hn : '0'.toNat ≤ c.toNat := Char.le_def.1 hle
  have h0 : '0'.toNat = 48 := rfl
  simp only [isControl, decide_eq_false_iff_not]
  omega

private theorem Quoted.isSome_hexValue?_of_unit? {a b c d : Char}
    (h : (unit? a b c d).isSome = true) : ∀ x ∈ [a, b, c, d], (hexValue? x).isSome = true := by
  obtain ⟨n, hn⟩ := Option.isSome_iff_exists.1 h
  simp only [unit?, Option.bind_eq_bind, Option.bind_eq_some_iff] at hn
  obtain ⟨va, ha, vb, hb, vc, hc, vd, hd, -⟩ := hn
  simp [ha, hb, hc, hd]

private theorem Quoted.not_isControl_of_unit? {a b c d : Char} (h : (unit? a b c d).isSome = true) :
    ∀ x ∈ [a, b, c, d], isControl x = false := fun x hx =>
  not_isControl_of_hexValue? (isSome_hexValue?_of_unit? h x hx)

theorem Quoted.not_quote_of_unit? {a b c d : Char} (h : (unit? a b c d).isSome = true) :
    ∀ x ∈ [a, b, c, d], x ≠ '"' ∧ x ≠ '\\' := by
  intro x hx
  have hhex := isSome_hexValue?_of_unit? h x hx
  constructor <;> rintro rfl <;> exact absurd hhex (by decide)

private theorem Quoted.not_isControl_of_shortEscape? {c : Char} (h : (shortEscape? c).isSome = true)
    : isControl c = false := by
  have hc : c ∈ ['"', '\\', '/', 'b', 'f', 'n', 'r', 't'] := by
    by_contra hc
    simp only [List.mem_cons, List.not_mem_nil, or_false, not_or] at hc
    simp [shortEscape?, hc] at h
  simp only [List.mem_cons, List.not_mem_nil, or_false] at hc
  rcases hc with rfl | rfl | rfl | rfl | rfl | rfl | rfl | rfl <;> rfl

theorem Quoted.not_isControl_of_wellFormed {t : Text} (h : wellFormed t = true) :
    ∀ c ∈ t, isControl c = false := by
  fun_induction wellFormed t with
  | case1 => simp
  | case2 a b c d r ih =>
    rw [Bool.and_eq_true] at h
    have hu := not_isControl_of_unit? h.1
    simp only [List.forall_mem_cons, List.not_mem_nil, false_implies, implies_true, and_true] at hu
    simp only [List.forall_mem_cons]
    exact ⟨by decide, by decide, hu.1, hu.2.1, hu.2.2.1, hu.2.2.2, ih h.2⟩
  | case3 e r hu ih =>
    rw [Bool.and_eq_true] at h
    simp only [List.forall_mem_cons]
    exact ⟨by decide, not_isControl_of_shortEscape? h.1, ih h.2⟩
  | case4 c r h1 h2 ih =>
    simp only [Bool.and_eq_true, decide_eq_true_eq] at h
    simp only [List.forall_mem_cons]
    exact ⟨by simpa [isControl] using h.1.2, ih h.2⟩

namespace Scanner

def openString? : Pending → Option Text
  | .quoted acc => some acc
  | .escaped acc => some acc
  | _ => none

/-- The scanner has met a control character in a string. -/
def IsSpoilt (s : Scanner) : Prop :=
  (∃ acc, openString? s.pending = some acc ∧ ∃ c ∈ acc, isControl c = true) ∨
    ∃ body, Token.quoted body ∈ s.found ∧ ∃ c ∈ body, isControl c = true

private theorem found_suffix_of_start {found : List Token} {c : Char} {s : Scanner}
    (h : start found c = some s) : found <:+ s.found := by
  unfold start at h
  split at h
  · simp only [Option.some.injEq] at h
    simp [← h]
  · split at h
    · simp only [Option.some.injEq] at h
      simp [← h]
    · split_ifs at h <;> simp only [Option.some.injEq] at h <;> simp [← h]

theorem found_suffix_of_step {s s' : Scanner} {c : Char} (h : s.step c = some s') :
    s.found <:+ s'.found := by
  unfold step at h
  split at h
  · exact found_suffix_of_start h
  · split_ifs at h
    · simp only [Option.some.injEq] at h
      simp [← h]
    · exact (List.suffix_cons ..).trans (found_suffix_of_start h)
  · split_ifs at h
    · simp only [Option.some.injEq] at h
      simp [← h]
    · exact (List.suffix_cons ..).trans (found_suffix_of_start h)
  · split_ifs at h <;> simp only [Option.some.injEq] at h <;> simp [← h]
  · simp only [Option.some.injEq] at h
    simp [← h]

theorem IsSpoilt.step {s s' : Scanner} {c : Char} (hs : s.IsSpoilt) (h : s.step c = some s') :
    s'.IsSpoilt := by
  rcases hs with ⟨acc, ha, d, hd, hdc⟩ | ⟨body, hb, hc⟩
  · obtain ⟨found, pending⟩ := s
    cases pending with
    | blank => simp [openString?] at ha
    | word acc' => simp [openString?] at ha
    | numeral acc' => simp [openString?] at ha
    | quoted acc' =>
      obtain rfl : acc' = acc := by simpa [openString?] using ha
      simp only [Scanner.step] at h
      split_ifs at h <;> simp only [Option.some.injEq] at h <;> subst h
      · exact Or.inr ⟨acc'.reverse, by simp, d, by simpa using hd, hdc⟩
      · exact Or.inl ⟨_, rfl, d, List.mem_cons_of_mem _ hd, hdc⟩
      · exact Or.inl ⟨_, rfl, d, List.mem_cons_of_mem _ hd, hdc⟩
    | escaped acc' =>
      obtain rfl : acc' = acc := by simpa [openString?] using ha
      simp only [Scanner.step, Option.some.injEq] at h
      subst h
      exact Or.inl ⟨_, rfl, d, List.mem_cons_of_mem _ hd, hdc⟩
  · exact Or.inr ⟨body, (found_suffix_of_step h).subset hb, hc⟩

theorem IsSpoilt.run {s s' : Scanner} {t : Text} (hs : s.IsSpoilt)
    (h : t.foldlM Scanner.step s = some s') : s'.IsSpoilt := by
  induction t generalizing s with
  | nil =>
    obtain rfl : s = s' := by simpa using h
    exact hs
  | cons c t ih =>
    simp only [List.foldlM_cons, Option.bind_eq_bind, Option.bind_eq_some_iff] at h
    obtain ⟨s₁, h₁, h₂⟩ := h
    exact ih (hs.step h₁) h₂

theorem IsSpoilt.finish {s : Scanner} {ts : List Token} (hs : s.IsSpoilt)
    (h : s.finish? = some ts) : ∃ body, Token.quoted body ∈ ts ∧ ∃ c ∈ body, isControl c = true := by
  obtain ⟨found, pending⟩ := s
  rcases hs with ⟨acc, ha, -⟩ | ⟨body, hb, hc⟩
  · cases pending <;> simp [openString?, finish?] at ha h
  · refine ⟨body, ?_, hc⟩
    cases pending <;> simp [finish?] at h <;> subst h <;> simpa using hb

private theorem pending_of_step_bracket {s s' : Scanner} (h : s.step '<' = some s') :
    ∃ acc, s'.pending = .quoted acc := by
  have hstart : ∀ found, start found '<' = none := fun _ => rfl
  have hlower : '<'.isLower = false := by decide
  obtain ⟨found, pending⟩ := s
  cases pending with
  | blank => simp [Scanner.step, hstart] at h
  | word acc => simp [Scanner.step, hstart, hlower] at h
  | numeral acc => simp [Scanner.step, hstart, isNumeralChar, Char.isDigit] at h
  | quoted acc =>
    simp [Scanner.step] at h
    exact ⟨_, by rw [← h]⟩
  | escaped acc =>
    simp [Scanner.step] at h
    exact ⟨_, by rw [← h]⟩

theorem run_quoted {w : Text} (hw : ∀ c ∈ w, c ≠ '"' ∧ c ≠ '\\') (found : List Token) (acc : Text) :
    w.foldlM Scanner.step ⟨found, .quoted acc⟩ = some ⟨found, .quoted (w.reverse ++ acc)⟩ := by
  induction w generalizing acc with
  | nil => rfl
  | cons c w ih =>
    rw [List.forall_mem_cons] at hw
    have hstep : Scanner.step ⟨found, .quoted acc⟩ c = some ⟨found, .quoted (c :: acc)⟩ := by
      simp [Scanner.step, hw.1]
    rw [List.foldlM_cons, hstep, Option.bind_eq_bind, Option.bind_some, ih hw.2]
    simp

end Scanner

namespace Reader

private theorem wellFormed_of_step {r r' : Reader} {body : Text}
    (h : r.step (.quoted body) = some r') : Quoted.wellFormed body = true := by
  obtain ⟨es, place⟩ := r
  by_contra hb
  cases place <;> simp [Reader.step, Reader.value, Reader.follow, hb] at h

private theorem wellFormed_of_run {ts : List Token} {r r' : Reader}
    (h : ts.foldlM Reader.step r = some r') :
    ∀ body, Token.quoted body ∈ ts → Quoted.wellFormed body = true := by
  induction ts generalizing r with
  | nil => simp
  | cons t ts ih =>
    simp only [List.foldlM_cons, Option.bind_eq_bind, Option.bind_eq_some_iff] at h
    obtain ⟨r₁, h₁, h₂⟩ := h
    intro body hb
    rcases List.mem_cons.1 hb with rfl | hb
    · exact wellFormed_of_step h₁
    · exact ih h₂ body hb

end Reader

private theorem Scanner.IsSpoilt.ofTokens?_eq_none {s : Scanner} (hs : s.IsSpoilt) (t : Text) :
    ((t.foldlM Scanner.step s >>= Scanner.finish?) >>= Tree.ofTokens?) = none := by
  by_contra hne
  obtain ⟨tree, h⟩ := Option.ne_none_iff_exists'.1 hne
  simp only [Option.bind_eq_bind, Option.bind_eq_some_iff, Tree.ofTokens?] at h
  obtain ⟨ts, ⟨s', hrun, hfin⟩, r, hread, -⟩ := h
  obtain ⟨body, hb, c, hc, hctl⟩ := (hs.run hrun).finish hfin
  have hwf : Quoted.wellFormed body = true := Reader.wellFormed_of_run hread body hb
  rw [Quoted.not_isControl_of_wellFormed hwf c hc] at hctl
  exact Bool.false_ne_true hctl

/-- An angle bracket and what follows it, without a quote or a backslash, can neither end a JSON
text nor stand before a control character. -/
theorem Tree.read?_eq_none_of_bracket {w y : Text} (hw : ∀ c ∈ w, c ≠ '"' ∧ c ≠ '\\')
    (hy : ∀ c ∈ y.head?, isControl c = true) (x : Text) :
    Tree.read? (x ++ ('<' :: w ++ y)) = none := by
  unfold Tree.read? Token.scan?
  rw [List.foldlM_append, List.cons_append]
  simp only [Option.bind_eq_bind]
  cases hx : x.foldlM Scanner.step {} with
  | none => rfl
  | some s =>
    rw [Option.bind_some, List.foldlM_cons]
    cases hb : s.step '<' with
    | none => rfl
    | some s' =>
      obtain ⟨found, pending⟩ := s'
      obtain ⟨acc, rfl⟩ := Scanner.pending_of_step_bracket hb
      simp only [Option.bind_eq_bind]
      rw [Option.bind_some, List.foldlM_append, Scanner.run_quoted hw]
      cases y with
      | nil => rfl
      | cons c y =>
        have hc : isControl c = true := hy c rfl
        have hq : c ≠ '"' ∧ c ≠ '\\' := by
          constructor <;> rintro rfl <;> exact absurd hc (by decide)
        simp only [Option.bind_eq_bind, Option.bind_some, List.foldlM_cons, Scanner.step, hq.1,
          hq.2, if_false]
        exact Scanner.IsSpoilt.ofTokens?_eq_none (Or.inl ⟨_, rfl, c, by simp, hc⟩) y

end Scratchpad.Json
