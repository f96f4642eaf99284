import Mathlib.Data.List.Basic
import Scratchpad.Echo.Language
import Scratchpad.Proofs.Echo.Scan
import Scratchpad.Proofs.Pattern.Matching

/-!
Equals signs in bare expressions. A text is read character by character; what stands in brackets or in
a string is passed over, and outside of them an equals sign that is no part of a comparison leads
astray. What the pattern of a language accepts never leads astray, and it ends outside of brackets and
strings (`Place.isSettled_of_accepts`).
-/

set_option autoImplicit false
set_option relaxedAutoImplicit false

namespace Scratchpad.Echo

def comparing : Text :=
  ['=', '!', '<', '>']

/-- Whether an equals sign among three characters in a row assigns: the one in the middle compares
with neither neighbour, or the last one ends a shift. -/
def assigns (a b c : Char) : Bool :=
  (b == '=' && c != '=' && !comparing.contains a) ||
    (a == b && (b == '<' || b == '>') && c == '=')

/-- Where a reader of an expression stands. -/
inductive Place where
  | outside (a b : Char)
  | index
  /-- In parentheses, which may be open once more. -/
  | call (nested : Bool)
  | quoted (quote : Char) (escaped : Bool)
  /-- Behind an equals sign that assigns. -/
  | astray

namespace Place

def next : Place → Char → Place
  | outside a b, c =>
    if assigns a b c then astray
    else if c = '[' then index
    else if c = '(' then call false
    else if c ∈ quotes then quoted c false
    else outside b c
  | index, c => if c = ']' then outside ' ' c else index
  | call nested, c =>
    if c = ')' then (if nested then call false else outside ' ' c)
    else if c = '(' then call true
    else call nested
  | quoted q false, c => if c = q then outside ' ' c else quoted q (c = '\\')
  | quoted q true, _ => quoted q false
  | astray, _ => astray

def after (m : Place) (t : Text) : Place :=
  t.foldl next m

theorem after_append (m : Place) (t u : Text) : m.after (t ++ u) = (m.after t).after u :=
  List.foldl_append

def openers : Text :=
  '[' :: '(' :: quotes

def specials : Text :=
  '<' :: '>' :: '=' :: openers

/-- No equals sign waits for a neighbour to compare with. -/
def IsReady (m : Place) : Prop :=
  ∃ a b, m = outside a b ∧ (b = '=' → a ∈ comparing)

/-- No comparison is under way. -/
def IsSettled (m : Place) : Prop :=
  ∃ a b, m = outside a b ∧ b ∉ ['=', '<', '>']

theorem IsSettled.isReady {m : Place} (h : m.IsSettled) : m.IsReady := by
  obtain ⟨a, b, rfl, hb⟩ := h
  exact ⟨a, b, rfl, fun heq => absurd (heq ▸ List.mem_cons_self ..) hb⟩

private theorem isSettled_outside {a b : Char} (hb : b ∉ ['=', '<', '>']) : (outside a b).IsSettled
    :=
  ⟨a, b, rfl, hb⟩

theorem next_outside {a b c : Char} (h : assigns a b c = false) (hc : c ∉ openers) :
    (outside a b).next c = outside b c := by
  simp only [openers, List.mem_cons, not_or] at hc
  simp [next, h, hc]

private theorem assigns_eq_false {a b c : Char} (hb : b = '=' → a ∈ comparing) (hc : c ≠ '=') :
    assigns a b c = false := by
  by_cases hbe : b = '='
  · simp [assigns, hbe, hb hbe]
  · simp [assigns, hbe, hc]

theorem IsReady.next {m : Place} (h : m.IsReady) {c : Char} (hc : c ∉ '=' :: openers) :
    ∃ b, m.next c = outside b c := by
  obtain ⟨a, b, rfl, hb⟩ := h
  rw [List.mem_cons, not_or] at hc
  exact ⟨b, next_outside (assigns_eq_false hb hc.1) hc.2⟩

private theorem IsReady.isReady_next {m : Place} (h : m.IsReady) {c : Char}
    (hc : c ∉ '=' :: openers) : (m.next c).IsReady := by
  obtain ⟨b, hb⟩ := h.next hc
  exact ⟨b, c, hb, fun heq => absurd (heq ▸ List.mem_cons_self ..) hc⟩

private theorem IsReady.isReady_after {m : Place} (h : m.IsReady) {t : Text}
    (ht : ∀ c ∈ t, c ∉ '=' :: openers) : (m.after t).IsReady := by
  induction t generalizing m with
  | nil => exact h
  | cons c t ih =>
    rw [List.forall_mem_cons] at ht
    exact ih (h.isReady_next ht.1) ht.2

theorem IsReady.isSettled_after {m : Place} (h : m.IsReady) {t : Text} (hne : t ≠ [])
    (ht : ∀ c ∈ t, c ∉ specials) : (m.after t).IsSettled := by
  obtain ⟨u, c, rfl⟩ := t.eq_nil_or_concat'.resolve_left hne
  have hmild : ∀ d ∈ u ++ [c], d ∉ '=' :: openers := fun d hd hmem =>
    ht d hd (List.mem_cons_of_mem _ (List.mem_cons_of_mem _ hmem))
  rw [List.forall_mem_append, List.forall_mem_singleton] at hmild
  obtain ⟨b, hb⟩ := (h.isReady_after hmild.1).next hmild.2
  rw [after_append]
  refine ⟨b, c, hb, fun hc => ht c (by simp) ?_⟩
  simp only [specials, List.mem_cons, List.not_mem_nil, or_false] at hc ⊢
  tauto

theorem IsSettled.isSettled_after {m : Place} (h : m.IsSettled) {t : Text}
    (ht : ∀ c ∈ t, c ∉ specials) : (m.after t).IsSettled := by
  by_cases hne : t = []
  · rw [hne]
    exact h
  · exact h.isReady.isSettled_after hne ht

end Place

/-- From a place of the first kind every text of the pattern leads to one of the second kind. -/
def Leads (P : Place → Prop) (p : Pattern) (Q : Place → Prop) : Prop :=
  ∀ ⦃m : Place⦄ ⦃t : Text⦄, P m → p.Matches t → Q (m.after t)

namespace Leads

open Place (IsReady IsSettled)

variable {P Q R : Place → Prop} {p q : Pattern}

private theorem mono {P' Q' : Place → Prop} (h : Leads P p Q) (hP : ∀ m, P' m → P m)
    (hQ : ∀ m, Q m → Q' m) : Leads P' p Q' :=
  fun m _ hm ht => hQ _ (h (hP m hm) ht)

theorem one {s : CharSet} (h : ∀ m c, P m → s.has c = true → Q (m.next c)) :
    Leads P (.one s) Q := by
  intro m t hm ht
  obtain ⟨c, hc, rfl⟩ := Pattern.matches_one_iff.1 ht
  exact h m c hm hc

private theorem char {c : Char} (h : ∀ m, P m → Q (m.next c)) : Leads P (Pattern.anyOf [c]) Q := by
  refine one fun m d hm hd => ?_
  obtain rfl : d = c := by simpa [CharSet.has_of_iff] using hd
  exact h m hm

theorem seq (hp : Leads P p Q) (hq : Leads Q q R) : Leads P (.seq p q) R := by
  intro m t hm ht
  obtain ⟨u, v, rfl, hu, hv⟩ := Pattern.matches_seq_iff.1 ht
  rw [Place.after_append]
  exact hq (hp hm hu) hv

theorem alt (hp : Leads P p Q) (hq : Leads P q Q) : Leads P (.alt p q) Q := by
  intro m t hm ht
  rcases Pattern.matches_alt_iff.1 ht with hp' | hq'
  · exact hp hm hp'
  · exact hq hm hq'

theorem oneOf {ps : List Pattern} (h : ∀ q ∈ p :: ps, Leads P q Q) :
    Leads P (Pattern.oneOf p ps) Q := by
  induction ps generalizing p with
  | nil => exact h p (List.mem_singleton_self p)
  | cons q ps ih =>
    rw [List.forall_mem_cons] at h
    exact alt h.1 (ih h.2)

theorem star (hp : Leads P p P) : Leads P (.star p) P := by
  intro m t hm ht
  generalize hq : Pattern.star p = q at ht
  -- the place is of the same kind behind each of the texts in a row
  induction ht generalizing m with
  | empty => cases hq
  | one => cases hq
  | seq => cases hq
  | left => cases hq
  | right => cases hq
  | none => exact hm
  | more hu _ _ ih =>
    obtain rfl := Pattern.star.inj hq
    rw [Place.after_append]
    exact ih (hp hm hu) rfl

theorem ready (h : p.avoids ('=' :: Place.openers) = true) : Leads IsReady p IsReady :=
  fun _ _ hm ht => hm.isReady_after (ht.notMem_of_avoids h)

private theorem settled (h : p.avoids Place.specials = true) : Leads IsSettled p IsSettled :=
  fun _ _ hm ht => hm.isSettled_after (ht.notMem_of_avoids h)

private theorem settling (h : p.avoids Place.specials = true) (hne : p.nullable = false) :
    Leads IsReady p IsSettled := by
  intro m t hm ht
  refine hm.isSettled_after ?_ (ht.notMem_of_avoids h)
  rintro rfl
  rw [← Pattern.nullable_iff, hne] at ht
  cases ht

theorem opening {c : Char} {m' : Place} (h : ∀ a b, assigns a b c = false →
    (Place.outside a b).next c = m') (hc : c ≠ '=') :
    Leads IsReady (Pattern.anyOf [c]) (· = m') := by
  refine char fun m hm => ?_
  obtain ⟨a, b, rfl, hb⟩ := hm
  exact h a b (Place.assigns_eq_false hb hc)

theorem index : Leads IsReady Expression.index IsSettled := by
  have hopen : Leads IsReady (Pattern.anyOf ['[']) (· = .index) :=
    opening (fun a b h => by simp [Place.next, h]) (by decide)
  have hinside : Leads (· = .index) (.star (.one (.except [']']))) (· = .index) := by
    refine star (one fun m c hm hc => ?_)
    rw [CharSet.has_except_iff, List.mem_singleton] at hc
    simp [hm, Place.next, hc]
  have hclose : Leads (· = .index) (Pattern.anyOf [']']) IsSettled := by
    refine char fun m hm => ?_
    rw [hm]
    exact Place.isSettled_outside (by decide)
  exact hopen.seq (hinside.seq hclose)

theorem call : Leads IsReady Expression.call IsSettled := by
  have hopen : Leads IsReady (Pattern.anyOf ['(']) (· = .call false) :=
    opening (fun a b h => by simp [Place.next, h]) (by decide)
  have hinside (nested : Bool) : Leads (· = .call nested) (.one (.except ['(', ')']))
      (· = .call nested) := by
    refine one fun m c hm hc => ?_
    rw [CharSet.has_except_iff] at hc
    simp only [List.mem_cons, List.not_mem_nil, or_false, not_or] at hc
    simp [hm, Place.next, hc]
  have hagain : Leads (· = .call false) (Pattern.anyOf ['(']) (· = .call true) := by
    refine char fun m hm => ?_
    rw [hm]
    rfl
  have hback : Leads (· = .call true) (Pattern.anyOf [')']) (· = .call false) := by
    refine char fun m hm => ?_
    rw [hm]
    rfl
  have hclose : Leads (· = .call false) (Pattern.anyOf [')']) IsSettled := by
    refine char fun m hm => ?_
    rw [hm]
    exact Place.isSettled_outside (by decide)
  have harguments := star ((hinside false).alt (hagain.seq ((star (hinside true)).seq hback)))
  exact hopen.seq (harguments.seq hclose)

theorem quoted {q : Char} (hq : q ∈ quotes) : Leads IsReady (Expression.quoted q) IsSettled := by
  have hfacts : ∀ d ∈ quotes, d ≠ '=' ∧ d ≠ '[' ∧ d ≠ '(' ∧ d ≠ '\\' ∧ d ∉ ['=', '<', '>'] := by
    decide
  obtain ⟨hequals, hindex, hcall, hslash, hsettled⟩ := hfacts q hq
  have hopen : Leads IsReady (Pattern.anyOf [q]) (· = .quoted q false) :=
    opening (fun a b h => by simp [Place.next, h, hindex, hcall, hq]) hequals
  have hplain : Leads (· = .quoted q false) (.one (.except [q, '\\'])) (· = .quoted q false) := by
    refine one fun m c hm hc => ?_
    rw [CharSet.has_except_iff] at hc
    simp only [List.mem_cons, List.not_mem_nil, or_false, not_or] at hc
    simp [hm, Place.next, hc]
  have hescape : Leads (· = .quoted q false) (Pattern.anyOf ['\\']) (· = .quoted q true) := by
    refine char fun m hm => ?_
    simp [hm, Place.next, Ne.symm hslash]
  have hescaped : Leads (· = .quoted q true) (.one .inLine) (· = .quoted q false) :=
    one fun m c hm _ => by rw [hm, Place.next]
  have hclose : Leads (· = .quoted q false) (Pattern.anyOf [q]) IsSettled := by
    refine char fun m hm => ?_
    rw [hm, Place.next, if_pos rfl]
    exact Place.isSettled_outside hsettled
  exact hopen.seq ((star (hplain.alt (hescape.seq hescaped))).seq hclose)

def comparisons : List Text :=
  Text.ofStrings ["===", "!==", "==", "!=", "<=>", "<=", ">="]

private theorem comparison {w : Text} (hw : w ∈ comparisons) :
    Leads IsSettled (Pattern.word w) IsReady := by
  intro m t hm ht
  obtain rfl := Pattern.matches_word_iff.1 ht
  obtain ⟨a, b, rfl, hb⟩ := hm
  simp only [List.mem_cons, List.not_mem_nil, or_false, not_or] at hb
  simp only [comparisons, Text.ofStrings, List.map_cons, List.map_nil, List.mem_cons,
    List.not_mem_nil, or_false] at hw
  rcases hw with rfl | rfl | rfl | rfl | rfl | rfl | rfl <;>
    simp [Place.after, Place.next, assigns, comparing, quotes, hb, IsReady]

theorem operations {operand operator : Pattern} (hoperand : Leads IsReady operand IsSettled)
    (hoperator : Leads IsSettled operator IsReady) :
    Leads IsReady (Expression.operations operand operator) IsSettled := by
  have hgap : Leads IsSettled Expression.gap IsSettled := settled (by decide)
  have hgapReady : Leads IsReady Expression.gap IsReady := ready (by decide)
  exact hoperand.seq (star (hgap.seq (hoperator.seq (hgapReady.seq hoperand))))

theorem operator {p : Pattern} {ps : List Pattern}
    (h : ∀ q ∈ p :: ps, q.avoids ('=' :: Place.openers) = true ∨ ∃ w ∈ comparisons, q = .word w) :
    Leads IsSettled (Pattern.oneOf p ps) IsReady := by
  refine oneOf fun q hq => ?_
  rcases h q hq with hmild | ⟨w, hw, rfl⟩
  · exact (ready hmild).mono (fun _ hm => hm.isReady) fun _ hm => hm
  · exact comparison hw

private theorem links {q : Pattern} {qs : List Pattern}
    (h : ∀ p ∈ q :: qs, Leads IsReady p IsSettled) :
    Leads IsSettled (.star (Pattern.oneOf q qs)) IsSettled :=
  star (oneOf fun p hp => (h p hp).mono (fun _ hm => hm.isReady) fun _ hm => hm)

theorem javaScript : Leads IsReady (Expression.ofLanguage .javaScript) IsSettled := by
  refine operations ((ready (by decide)).seq (oneOf ?_)) (operator (by decide))
  simp only [List.forall_mem_cons]
  refine ⟨(settling (by decide) rfl).seq (links ?_), settling (by decide) rfl, quoted (by decide),
    quoted (by decide), quoted (by decide), by simp⟩
  simp only [List.forall_mem_cons]
  exact ⟨settling (by decide) rfl, index, call, by simp⟩

theorem python : Leads IsReady (Expression.ofLanguage .python) IsSettled := by
  refine operations ((ready (by decide)).seq (oneOf ?_)) (operator (by decide))
  simp only [List.forall_mem_cons]
  refine ⟨(settling (by decide) rfl).seq (links ?_), settling (by decide) rfl,
    (ready (by decide)).seq (quoted (by decide)), (ready (by decide)).seq (quoted (by decide)),
    by simp⟩
  simp only [List.forall_mem_cons]
  exact ⟨settling (by decide) rfl, index, call, by simp⟩

theorem php : Leads IsReady (Expression.ofLanguage .php) IsSettled := by
  refine operations ((ready (by decide)).seq (oneOf ?_)) (operator (by decide))
  simp only [List.forall_mem_cons]
  refine ⟨(ready (by decide)).seq ((settling (by decide) rfl).seq (links ?_)),
    settling (by decide) rfl, quoted (by decide), quoted (by decide), by simp⟩
  simp only [List.forall_mem_cons]
  exact ⟨(ready (by decide)).seq (settling (by decide) rfl), settling (by decide) rfl, index, call,
    by simp⟩

theorem ruby : Leads IsReady (Expression.ofLanguage .ruby) IsSettled := by
  refine operations ((ready (by decide)).seq (oneOf ?_)) (operator (by decide))
  simp only [List.forall_mem_cons]
  refine ⟨(settling (by decide) rfl).seq ((settled (by decide)).seq (links ?_)),
    settling (by decide) rfl, settling (by decide) rfl, settling (by decide) rfl,
    quoted (by decide), quoted (by decide), by simp⟩
  simp only [List.forall_mem_cons]
  exact ⟨settling (by decide) rfl, settling (by decide) rfl, index, call, by simp⟩

theorem ofLanguage (l : Language) : Leads IsReady (Expression.ofLanguage l) IsSettled := by
  cases l with
  | javaScript => exact javaScript
  | python => exact python
  | php => exact php
  | ruby => exact ruby

end Leads

namespace Place

def start : Place :=
  outside ' ' ' '

theorem isSettled_start : start.IsSettled :=
  isSettled_outside (by decide)

/-- An expression ends outside of brackets and strings, and none of its equals signs assigns. -/
theorem isSettled_of_accepts {l : Language} {e : Text}
    (h : (Expression.ofLanguage l).accepts e = true) {m : Place} (hm : m.IsReady) :
    (m.after e).IsSettled :=
  Leads.ofLanguage l hm (Pattern.accepts_iff.1 h)

end Place

end Scratchpad.Echo
