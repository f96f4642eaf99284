import Scratchpad.Proofs.Echo.Place
import Scratchpad.Proofs.Echo.Probes

/-!
Assignments are not echoed. Up to its operator an assignment stands outside of brackets and strings,
and the equals sign of the operator compares with nothing; but in an expression every equals sign
compares (`Place.isSettled_of_accepts`). A comment can cut a line off before the operator only in an
index, where no expression ends (`Language.IsTarget.covers`).
-/

set_option autoImplicit false
set_option relaxedAutoImplicit false

namespace Scratchpad

namespace Language

/-- The marks in front of the names of variables. -/
def sigils : Language → List Text
  | .javaScript => Text.ofStrings [""]
  | .python => Text.ofStrings [""]
  | .php => Text.ofStrings ["", "$"]
  | .ruby => Text.ofStrings ["", "@", "@@", "$"]

def accessors : Language → List Text
  | .javaScript => Text.ofStrings [".", "?.", ".#"]
  | .python => Text.ofStrings ["."]
  | .php => Text.ofStrings ["->", "?->", "->$", "::", "::$"]
  | .ruby => Text.ofStrings [".", "&.", "::"]

def nameMarks : Language → Text
  -- a character may be written as its code point in braces behind a backslash
  | .javaScript => ['$', '\\', '\x7b', '\x7d']
  | .php => ['\\']
  | _ => []

def isNameChar (l : Language) (c : Char) : Bool :=
  c.isAlphanum || c == '_' || 128 ≤ c.toNat || l.nameMarks.contains c

/-- A text that is made like a name; every identifier is. -/
def IsName (l : Language) (n : Text) : Prop :=
  n ≠ [] ∧ ∀ c ∈ n, l.isNameChar c = true

/-- What is assigned to: a variable with member accesses and indices behind it. -/
inductive IsTarget (l : Language) : Text → Prop
  | name {sigil n : Text} : sigil ∈ l.sigils → l.IsName n → IsTarget l (sigil ++ n)
  | member {t accessor n : Text} :
    IsTarget l t → accessor ∈ l.accessors → l.IsName n → IsTarget l (t ++ (accessor ++ n))
  | index {t i : Text} : IsTarget l t → ']' ∉ i → IsTarget l (t ++ ('[' :: (i ++ [']'])))

def assignments (l : Language) : List Text :=
  Text.ofStrings
    (["=", "+=", "-=", "*=", "/=", "%=", "**=", "&=", "|=", "^=", "<<=", ">>="] ++ match l with
      | .javaScript => [">>>=", "&&=", "||=", "??="]
      | .python => ["//=", "@=", ":="]
      | .php => [".=", "??="]
      | .ruby => ["&&=", "||="])

end Language

namespace Echo

namespace Place

/-- Outside of brackets and strings, be it astray. -/
def IsOuter (m : Place) : Prop :=
  m = astray ∨ ∃ a b, m = outside a b

/-- Outside of brackets and strings, and not behind what an equals sign could be part of. -/
def IsNamed (m : Place) : Prop :=
  m = astray ∨ ∃ a b, m = outside a b ∧ b ∉ comparing

/-- Behind an equals sign that assigns unless another one follows. -/
def IsPending (m : Place) : Prop :=
  m = astray ∨ ∃ a, m = outside a '=' ∧ a ∉ comparing

/-- Where no expression ends. -/
def IsHidden (m : Place) : Prop :=
  m = index ∨ m = astray

private theorem IsHidden.not_isSettled {m : Place} (h : m.IsHidden) : ¬ m.IsSettled := by
  rintro ⟨a, b, rfl, -⟩
  rcases h with h | h <;> cases h

private theorem IsNamed.isOuter {m : Place} (h : m.IsNamed) : m.IsOuter :=
  h.imp_right fun ⟨a, b, hm, _⟩ => ⟨a, b, hm⟩

theorem isNamed_start : start.IsNamed :=
  Or.inr ⟨' ', ' ', rfl, by decide⟩

private theorem after_astray (t : Text) : astray.after t = astray := by
  induction t with
  | nil => rfl
  | cons c t ih => exact ih

private theorem outside_next_cases (a b : Char) {c : Char} (hc : c ∉ openers) :
    (outside a b).next c = astray ∨ (outside a b).next c = outside b c := by
  cases ha : assigns a b c with
  | true => exact Or.inl (by simp [Place.next, ha])
  | false => exact Or.inr (next_outside ha hc)

theorem IsOuter.next {m : Place} (h : m.IsOuter) {c : Char} (hc : c ∉ openers) :
    m.next c = astray ∨ ∃ b, m.next c = outside b c := by
  rcases h with rfl | ⟨a, b, rfl⟩
  · exact Or.inl rfl
  · exact (outside_next_cases a b hc).imp_right fun hb => ⟨b, hb⟩

private theorem IsOuter.isOuter_after {m : Place} (h : m.IsOuter) {t : Text}
    (ht : ∀ c ∈ t, c ∉ openers) : (m.after t).IsOuter := by
  induction t generalizing m with
  | nil => exact h
  | cons c t ih =>
    rw [List.forall_mem_cons] at ht
    exact ih ((h.next ht.1).imp_right fun ⟨b, hb⟩ => ⟨b, c, hb⟩) ht.2

private theorem IsOuter.isNamed_after {m : Place} (h : m.IsOuter) {t : Text} (hne : t ≠ [])
    (ht : ∀ c ∈ t, c ∉ openers) (hlast : ∀ c ∈ t.getLast?, c ∉ comparing) :
    (m.after t).IsNamed := by
  obtain ⟨u, c, rfl⟩ := t.eq_nil_or_concat'.resolve_left hne
  rw [List.forall_mem_append, List.forall_mem_singleton] at ht
  rw [List.getLast?_concat] at hlast
  rw [after_append]
  refine ((h.isOuter_after ht.1).next ht.2).imp_right ?_
  rintro ⟨b, hb⟩
  exact ⟨b, c, hb, hlast c rfl⟩

private theorem IsNamed.isNamed_after {m : Place} (h : m.IsNamed) {t : Text}
    (ht : ∀ c ∈ t, c ∉ openers) (hlast : ∀ c ∈ t.getLast?, c ∉ comparing) :
    (m.after t).IsNamed := by
  by_cases hne : t = []
  · rw [hne]
    exact h
  · exact h.isOuter.isNamed_after hne ht hlast

private theorem IsOuter.after_index {m : Place} (h : m.IsOuter) {i : Text} (hi : ']' ∉ i) :
    (m.after ('[' :: i)).IsHidden := by
  have hinside : index.after i = index := by
    induction i with
    | nil => rfl
    | cons c i ih =>
      rw [List.mem_cons, not_or] at hi
      have hc : index.next c = index := by simp [Place.next, Ne.symm hi.1]
      rw [after, List.foldl_cons, hc]
      exact ih hi.2
  rcases h with rfl | ⟨a, b, rfl⟩
  · exact Or.inr (after_astray _)
  · cases ha : assigns a b '[' with
    | true =>
      have hnext : (outside a b).next '[' = astray := by simp [Place.next, ha]
      exact Or.inr (by rw [after, List.foldl_cons, hnext]; exact after_astray i)
    | false =>
      have hnext : (outside a b).next '[' = index := by simp [Place.next, ha]
      exact Or.inl (by rw [after, List.foldl_cons, hnext]; exact hinside)

private theorem IsHidden.isNamed_next {m : Place} (h : m.IsHidden) : (m.next ']').IsNamed := by
  rcases h with rfl | rfl
  · exact Or.inr ⟨' ', ']', rfl, by decide⟩
  · exact Or.inl rfl

private theorem IsNamed.isPending_next {m : Place} (h : m.IsNamed) : (m.next '=').IsPending := by
  rcases h with rfl | ⟨a, b, rfl, hb⟩
  · exact Or.inl rfl
  · have ha : assigns a b '=' = false := by
      simp only [comparing, List.mem_cons, List.not_mem_nil, or_false, not_or] at hb
      simp [assigns, hb]
    exact Or.inr ⟨b, next_outside ha (by decide), hb⟩

private theorem IsOuter.after_shift {m : Place} (h : m.IsOuter) {d : Char} (hd : d = '<' ∨ d = '>')
    : m.after [d, d, '='] = astray := by
  have hopeners : d ∉ openers := by rcases hd with rfl | rfl <;> decide
  have hassigns : (outside d d).next '=' = astray := by rcases hd with rfl | rfl <;> rfl
  rcases h.next hopeners with hfirst | ⟨b, hfirst⟩
  · rw [after, List.foldl_cons, hfirst]
    exact after_astray [d, '=']
  · rw [after, List.foldl_cons, hfirst, List.foldl_cons]
    rcases outside_next_cases b d hopeners with hsecond | hsecond
    · rw [hsecond]
      exact after_astray ['=']
    · rw [hsecond, List.foldl_cons, hassigns]
      rfl

private theorem exists_of_mem_assignments {l : Language} {op : Text} (h : op ∈ l.assignments) :
    ∃ o, op = o ++ ['='] ∧ (∀ c ∈ o, c ∉ openers) ∧
      ((∀ c ∈ o.getLast?, c ∉ comparing) ∨ ∃ u, o = u ++ ['<', '<'] ∨ o = u ++ ['>', '>']) := by
  have hall : ∀ op ∈ l.assignments, ∃ o ∈ op.inits, op = o ++ ['='] ∧ (∀ c ∈ o, c ∉ openers) ∧
      ((∀ c ∈ o.getLast?, c ∉ comparing) ∨
        ∃ u ∈ o.inits, o = u ++ ['<', '<'] ∨ o = u ++ ['>', '>']) := by
    cases l <;> decide
  obtain ⟨o, -, ho, hopeners, hlast⟩ := hall op h
  exact ⟨o, ho, hopeners, hlast.imp_right fun ⟨u, _, hu⟩ => ⟨u, hu⟩⟩

private theorem IsNamed.isPending_after {l : Language} {m : Place} (h : m.IsNamed) {op : Text}
    (hop : op ∈ l.assignments) : (m.after op).IsPending := by
  obtain ⟨o, rfl, hopeners, hlast | ⟨u, hu⟩⟩ := exists_of_mem_assignments hop
  · rw [after_append]
    exact (h.isNamed_after hopeners hlast).isPending_next
  · have hshift : ∃ d, (d = '<' ∨ d = '>') ∧ o = u ++ [d, d] := by
      rcases hu with hu | hu
      · exact ⟨'<', Or.inl rfl, hu⟩
      · exact ⟨'>', Or.inr rfl, hu⟩
    obtain ⟨d, hd, rfl⟩ := hshift
    rw [List.forall_mem_append] at hopeners
    have houter := h.isOuter.isOuter_after hopeners.1
    refine Or.inl ?_
    rw [List.append_assoc, after_append]
    exact houter.after_shift hd

private theorem IsPending.not_isSettled_after {m : Place} (h : m.IsPending) {t : Text}
    (ht : t.head? ≠ some '=') : ¬ (m.after t).IsSettled := by
  rintro ⟨a, b, hab, hb⟩
  rcases h with rfl | ⟨a', rfl, ha'⟩
  · rw [after_astray] at hab
    cases hab
  · cases t with
    | nil =>
      obtain ⟨rfl, rfl⟩ := outside.inj hab
      exact hb (by decide)
    | cons c t =>
      have hc : c ≠ '=' := fun hc => ht (by rw [hc]; rfl)
      have hastray : (outside a' '=').next c = astray := by simp [Place.next, assigns, hc, ha']
      rw [after, List.foldl_cons, hastray, ← after, after_astray] at hab
      cases hab

end Place

end Echo

namespace Language

open Echo (Place)
open Echo.Place (start)

/-- In a text that is read from a place on, a comment starts only where no expression ends. -/
def Covers (l : Language) (m : Place) (w : Text) : Prop :=
  ∀ ⦃x v : Text⦄ (y : Text), w = x ++ v → v ≠ [] → l.echo.isComment (v ++ y) = true →
    (m.after x).IsHidden

theorem Covers.append {l : Language} {m : Place} {w w' : Text} (h : l.Covers m w)
    (h' : l.Covers (m.after w) w') : l.Covers m (w ++ w') := by
  intro x v y heq hv hcomment
  rcases List.append_eq_append_iff.1 heq with ⟨x', rfl, hw'⟩ | ⟨v', rfl, rfl⟩
  · rw [Place.after_append]
    exact h' y hw' hv hcomment
  · by_cases hv' : v' = []
    · subst hv'
      rw [List.append_nil] at h'
      exact h' (x := []) y rfl hv hcomment
    · rw [List.append_assoc] at hcomment
      exact h (w' ++ y) rfl hv' hcomment

private theorem covers_of_foreign {l : Language} {w : Text} (h : ∀ c ∈ w, l.echo.Foreign c)
    (m : Place) : l.Covers m w := by
  rintro x v y rfl hv hcomment
  obtain ⟨c, v, rfl⟩ := List.exists_cons_of_ne_nil hv
  have hc := Echo.Rules.isComment_append_cons (h c (by simp)) [] (v ++ y)
  rw [List.nil_append, l.echo_hasMarkers.isComment_nil, ← List.cons_append, hcomment] at hc
  cases hc

private theorem covers_index {l : Language} {m : Place} (hm : m.IsOuter) {i : Text} (hi : ']' ∉ i) :
    l.Covers m ('[' :: (i ++ [']'])) := by
  intro x v y heq hv hcomment
  cases x with
  | nil =>
    have hforeign : l.echo.Foreign '[' := l.foreign_of_ne (by decide) (by decide)
    obtain rfl : '[' :: (i ++ [']']) = v := heq
    exact covers_of_foreign (m := m) (w := ['[']) (by simpa using hforeign) (i ++ [']'] ++ y)
      rfl (by simp) hcomment
  | cons a x =>
    obtain ⟨rfl, hx⟩ := List.cons.inj heq
    refine hm.after_index fun hmem => hi ?_
    -- the closing bracket is the last character and so it belongs to `v`
    obtain ⟨v, d, rfl⟩ := v.eq_nil_or_concat'.resolve_left hv
    have hi' : i ++ [']'] = (x ++ v) ++ [d] := hx.trans (List.append_assoc x v [d]).symm
    rw [(List.append_inj' hi' rfl).1]
    exact List.mem_append_left v hmem

private theorem covers_assignment {l : Language} {op : Text} (hop : op ∈ l.assignments) (m : Place)
    : l.Covers m op := by
  have hall : ∀ op ∈ l.assignments, ∀ v ∈ op.tails, v ≠ [] → l.echo.isComment v.dropLast = false ∧
      v.getLast? = some '=' := by
    cases l <;> decide
  rintro x v y rfl hv hcomment
  obtain ⟨hstart, hlast⟩ := hall _ hop v ((List.mem_tails v _).2 (List.suffix_append x v)) hv
  obtain ⟨v, rfl⟩ := List.getLast?_eq_some_iff.1 hlast
  rw [List.dropLast_concat] at hstart
  rw [List.append_assoc, List.singleton_append,
    Echo.Rules.isComment_append_cons (l.foreign_of_ne (by decide) (by decide)), hstart] at hcomment
  cases hcomment

private theorem notMem_of_isNameChar {l : Language} {c : Char} (h : l.isNameChar c = true) :
    c ∉ Place.openers ∧ c ∉ Echo.comparing ∧ l.echo.Foreign c := by
  have hall : ∀ d ∈ '/' :: '#' :: (Place.openers ++ Echo.comparing), l.isNameChar d = false := by
    cases l <;> decide
  have hne : c ∉ '/' :: '#' :: (Place.openers ++ Echo.comparing) := by
    intro hmem
    rw [hall c hmem] at h
    cases h
  simp only [List.mem_cons, List.mem_append, not_or] at hne
  obtain ⟨hslash, hsign, hopeners, hcomparing⟩ := hne
  exact ⟨hopeners, hcomparing, l.foreign_of_ne hslash hsign⟩

private theorem foreign_of_mem_sigils {l : Language} {w : Text} (h : w ∈ l.sigils ++ l.accessors) :
    ∀ c ∈ w, c ∉ Place.openers ∧ l.echo.Foreign c := by
  have hall : ∀ w ∈ l.sigils ++ l.accessors, ∀ c ∈ w, c ∉ Place.openers ∧ l.echo.Foreign c := by
    cases l <;> decide
  exact hall w h

private theorem IsName.covers {l : Language} {n : Text} (hn : l.IsName n) {w : Text}
    (hw : w ∈ l.sigils ++ l.accessors) {m : Place} (hm : m.IsOuter) :
    (m.after (w ++ n)).IsNamed ∧ l.Covers m (w ++ n) := by
  have hwf := foreign_of_mem_sigils hw
  have hnf := fun c hc => notMem_of_isNameChar (hn.2 c hc)
  constructor
  · rw [Place.after_append]
    exact (hm.isOuter_after fun c hc => (hwf c hc).1).isNamed_after hn.1 (fun c hc => (hnf c hc).1)
      fun c hc => (hnf c (List.mem_of_getLast? hc)).2.1
  · exact covers_of_foreign
      (List.forall_mem_append.2 ⟨fun c hc => (hwf c hc).2, fun c hc => (hnf c hc).2.2⟩) m

private theorem IsTarget.covers {l : Language} {t : Text} (h : l.IsTarget t) :
    (start.after t).IsNamed ∧ l.Covers start t := by
  induction h with
  | name hsigil hn =>
    exact hn.covers (List.mem_append_left _ hsigil) Place.isNamed_start.isOuter
  | member _ haccessor hn ih =>
    obtain ⟨hnamed, hcovers⟩ := hn.covers (List.mem_append_right _ haccessor) ih.1.isOuter
    rw [Place.after_append]
    exact ⟨hnamed, ih.2.append hcovers⟩
  | @index t i _ hi ih =>
    have hhidden := ih.1.isOuter.after_index hi
    have hsplit : '[' :: (i ++ [']']) = ('[' :: i) ++ [']'] := rfl
    constructor
    · rw [Place.after_append, hsplit, Place.after_append]
      exact hhidden.isNamed_next
    · exact ih.2.append (covers_index ih.1.isOuter hi)

end Language

namespace Echo.Rules

open Scratchpad.Language (IsTarget Covers)

private theorem isBlank_specials {c : Char} (h : Text.isBlank c = true) :
    c ∉ Place.specials ∧ c ∉ comparing := by
  have hsolid : ∀ d ∈ Place.specials ++ comparing, Text.isBlank d = false := by decide
  have hne : c ∉ Place.specials ++ comparing := by
    intro hmem
    rw [hsolid c hmem] at h
    cases h
  rwa [List.mem_append, not_or] at hne

private theorem Echoes.exists_settled {l : Language} {line echo code : Text} {comment : Option Text}
    (h : l.echo.Echoes line echo code comment) :
    ∃ x r, line = x ++ r ∧ (Place.start.after x).IsSettled ∧
      ((∀ c ∈ r, Text.isBlank c = true) ∨ l.echo.isComment r = true) := by
  obtain ⟨trailing, htrailing, hline⟩ := Text.exists_indentation_append_trim line
  obtain ⟨gap, hgap, htrim, hcomment, -⟩ := exists_of_splitComment h.split
  obtain ⟨inner, hinner, hcode⟩ := exists_expressionOf_append code
  obtain ⟨p, hp, haccepts⟩ := h.accepted
  have hpattern : l.echo.expression = some (Expression.ofLanguage l) := by cases l <;> rfl
  obtain rfl : Expression.ofLanguage l = p := Option.some.inj (hpattern.symm.trans hp)
  have hblank : ∀ {t : Text}, (∀ c ∈ t, Text.isBlank c = true) → ∀ c ∈ t, c ∉ Place.specials :=
    fun ht c hc => (isBlank_specials (ht c hc)).1
  have hindent := Place.isSettled_start.isSettled_after
    (hblank (Text.isBlank_of_mem_indentation (t := line)))
  have hexpression := Place.isSettled_of_accepts haccepts hindent.isReady
  have hend : ∃ y, code = expressionOf code ++ y ∧ ∀ c ∈ y, c ∉ Place.specials := by
    rcases hcode with hcode | hcode
    · exact ⟨inner, hcode, hblank hinner⟩
    · exact ⟨inner ++ [';'], hcode, List.forall_mem_append.2 ⟨hblank hinner, by decide⟩⟩
  obtain ⟨y, hy, hspecials⟩ := hend
  refine ⟨Text.indentation line ++ (expressionOf code ++ (y ++ gap)), comment.getD [] ++ trailing,
    ?_, ?_, ?_⟩
  · conv_lhs => rw [hline, htrim, hy]
    simp only [List.append_assoc]
  · rw [Place.after_append, Place.after_append, Place.after_append]
    exact (hexpression.isSettled_after hspecials).isSettled_after (hblank hgap)
  · cases comment with
    | none => exact Or.inl htrailing
    | some c =>
      obtain ⟨-, -, -, hmarked⟩ := comment?_eq_some hcomment
      exact Or.inr (isComment_of_isPrefix (List.prefix_append c trailing) hmarked)

private theorem isPending_assignment {l : Language} {target op before : Text}
    (htarget : l.IsTarget target)
    (hop : op ∈ l.assignments) (hbefore : ∀ c ∈ before, Text.isBlank c = true) :
    (Place.start.after (target ++ (before ++ op))).IsPending ∧
      l.Covers Place.start (target ++ (before ++ op)) := by
  obtain ⟨hnamed, hcovers⟩ := htarget.covers
  have hbehind : ((Place.start.after target).after before).IsNamed :=
    hnamed.isNamed_after
      (fun c hc hmem => (isBlank_specials (hbefore c hc)).1 (by simp [Place.specials, hmem]))
      fun c hc => (isBlank_specials (hbefore c (List.mem_of_getLast? hc))).2
  have hforeign : ∀ c ∈ before, l.echo.Foreign c := fun c hc =>
    l.echo_hasMarkers.foreign_of_isBlank c (hbefore c hc)
  constructor
  · rw [Place.after_append, Place.after_append]
    exact hbehind.isPending_after hop
  · exact hcovers.append
      ((Language.covers_of_foreign hforeign _).append (Language.covers_assignment hop _))

private theorem echoLine?_assignment {l : Language} {target op before rest : Text}
    (htarget : l.IsTarget target) (hop : op ∈ l.assignments)
    (hbefore : ∀ c ∈ before, Text.isBlank c = true) (hrest : rest.head? ≠ some '=') :
    l.echo.echoLine? (target ++ (before ++ op) ++ rest) = none := by
  by_contra hne
  obtain ⟨echo, hecho⟩ := Option.ne_none_iff_exists'.1 hne
  obtain ⟨code, comment, h⟩ := exists_echoes_of_echoLine? hecho
  obtain ⟨x, r, hline, hsettled, hr⟩ := h.exists_settled
  obtain ⟨hpending, hcovers⟩ := isPending_assignment htarget hop hbefore
  rcases List.append_eq_append_iff.1 hline with ⟨y, rfl, hy⟩ | ⟨v, hv, rfl⟩
  · -- the operator stands in what is read as an expression
    have hhead : y.head? ≠ some '=' := by
      rw [hy] at hrest
      cases y <;> simp_all
    rw [Place.after_append] at hsettled
    exact hpending.not_isSettled_after hhead hsettled
  · by_cases hnil : v = []
    · rw [hnil, List.append_nil] at hv
      rw [← hv] at hsettled
      exact hpending.not_isSettled_after (t := []) (by simp) hsettled
    · rcases hr with hblank | hcomment
      · obtain ⟨o, ho, -⟩ := Place.exists_of_mem_assignments hop
        have hequals : v.getLast? = some '=' := by
          rw [← List.getLast?_append_of_ne_nil x hnil, ← hv, ho]
          simp
        have hmem := hblank '=' (List.mem_append_left _ (List.mem_of_getLast? hequals))
        cases hmem
      · exact (hcovers rest hv hnil hcomment).not_isSettled hsettled

end Echo.Rules

namespace Language

/-- No assignment is ever echoed, wherever the scan stands. -/
theorem step_assignment (l : Language) (s : Echo.Scan) {target op before behind rest : Text}
    (htarget : l.IsTarget target) (hop : op ∈ l.assignments)
    (hbefore : ∀ c ∈ before, Text.isBlank c = true) (hbehind : ∀ c ∈ behind, Text.isBlank c = true)
    (hrest : rest.head? ≠ some '=') :
    (l.echo.step s (target ++ before ++ op ++ behind ++ rest)).2 = none := by
  have hhead : (behind ++ rest).head? ≠ some '=' := by
    cases behind with
    | nil => exact hrest
    | cons c behind =>
      rintro hc
      obtain rfl : c = '=' := Option.some.inj hc
      have hequals := hbehind '=' (List.mem_cons_self ..)
      cases hequals
  have hnone := Echo.Rules.echoLine?_assignment htarget hop hbefore hhead
  have hline : target ++ before ++ op ++ behind ++ rest =
      target ++ (before ++ op) ++ (behind ++ rest) := by simp only [List.append_assoc]
  by_contra hne
  obtain ⟨echo, hecho⟩ := Option.ne_none_iff_exists'.1 hne
  rw [hline] at hecho
  rw [Echo.Rules.step_eq_echoLine? hecho] at hnone
  cases hnone

/-- An assignment by a shift, with strings, a comparison, an arrow and a comment in it. -/
theorem step_assignment_shift :
    (ruby.echo.step {} "@rows[\"# [1\"].last <<= a == b ? \"=\" : c # => ]".toList).2 = none := by
  have hname : IsTarget ruby ("@".toList ++ "rows".toList) :=
    .name (by decide) ⟨by decide, by decide⟩
  have hindex : IsTarget ruby ("@".toList ++ "rows".toList ++ '[' :: ("\"# [1\"".toList ++ [']'])) :=
    .index hname (by decide)
  have htarget : IsTarget ruby ("@".toList ++ "rows".toList ++ '[' :: ("\"# [1\"".toList ++ [']']) ++
      (".".toList ++ "last".toList)) :=
    .member hindex (by decide) ⟨by decide, by decide⟩
  have hop : "<<=".toList ∈ ruby.assignments := by decide
  have hblank : ∀ c ∈ [' '], Text.isBlank c = true := by decide
  have hrest : "a == b ? \"=\" : c # => ]".toList.head? ≠ some '=' := by decide
  have hline : "@rows[\"# [1\"].last <<= a == b ? \"=\" : c # => ]".toList =
      "@".toList ++ "rows".toList ++ '[' :: ("\"# [1\"".toList ++ [']']) ++
        (".".toList ++ "last".toList) ++ [' '] ++ "<<=".toList ++ [' '] ++
        "a == b ? \"=\" : c # => ]".toList := rfl
  rw [hline]
  exact ruby.step_assignment {} htarget hop hblank hblank hrest

end Language

end Scratchpad
