import Mathlib.Order.WellFounded
import Scratchpad.Conventions
import Scratchpad.Proofs.Probe.Search

/-!
Markers in a line. Markers may stand in a line several times and run into each other. An occurrence
*counts* unless one that counts reaches into it from the left. The probe of a line is what the
leftmost occurrence asks for among those that count and ask for something
(`Probe.search?_eq_some_iff`), and the probes of a snippet are those of its lines
(`Language.probes_leading`).
-/

set_option autoImplicit false
set_option relaxedAutoImplicit false

namespace Scratchpad

namespace Probe

/-- A comment asks for an expression: blanks, a dollar sign, and a text that is not blank. The
expression is this text without the blanks around it, with the dollar sign if that belongs to it. -/
def Asks (dollarIsSigil : Bool) (comment e : Text) : Prop :=
  ∃ gap rest, comment = gap ++ '$' :: rest ∧ (∀ c ∈ gap, Text.isBlank c = true) ∧
    (∃ c ∈ rest, Text.isBlank c = false) ∧
    e = if (dollarIsSigil && startsName rest) = true then '$' :: Text.trimEnd rest
      else Text.trim rest

private theorem exists_solid_of_startsName {rest : Text} (h : startsName rest = true) :
    ∃ c ∈ rest, Text.isBlank c = false := by
  cases rest with
  | nil => cases h
  | cons c rest =>
    refine ⟨c, List.mem_cons_self .., ?_⟩
    rw [← Bool.not_eq_true]
    intro hblank
    rw [startsName, Text.isAlphabetic_of_isBlank hblank, Bool.false_or, beq_iff_eq] at h
    subst h
    cases hblank

private theorem trim_ne_nil_iff {t : Text} : Text.trim t ≠ [] ↔ ∃ c ∈ t, Text.isBlank c = false
    := by
  simp [Text.trim_eq_nil_iff]

private theorem expression?_eq_some_iff {sigil : Bool} {comment e : Text} :
    expression? sigil comment = some e ↔ Asks sigil comment e := by
  constructor
  · intro h
    have hcomment := Text.indentation_append_trimStart comment
    have hgap : ∀ c ∈ Text.indentation comment, Text.isBlank c = true := fun _ hc =>
      List.mem_takeWhile_imp hc
    by_cases hdollar : (Text.trimStart comment).head? = some '$'
    · obtain ⟨rest, hrest⟩ := List.head?_eq_some_iff.1 hdollar
      rw [expression?_of_dollar hrest, Option.ite_none_left_eq_some, Option.some.injEq,
        List.isEmpty_iff] at h
      refine ⟨_, rest, by rw [← hrest, hcomment], hgap, ?_, h.2.symm⟩
      by_cases hname : (sigil && startsName rest) = true
      · exact exists_solid_of_startsName (Bool.and_eq_true_iff.1 hname).2
      · rw [if_neg hname] at h
        exact trim_ne_nil_iff.1 h.1
    · rw [expression?_eq_none hdollar] at h
      cases h
  · rintro ⟨gap, rest, rfl, hgap, hsolid, rfl⟩
    have hstart : Text.trimStart (gap ++ '$' :: rest) = '$' :: rest := by
      rw [Text.trimStart_append_of_blanks hgap]
      rfl
    rw [expression?_of_dollar hstart, if_neg]
    split
    · simp
    · rw [List.isEmpty_iff]
      exact trim_ne_nil_iff.2 hsolid

private theorem Asks.unique {sigil : Bool} {comment e e' : Text} (h : Asks sigil comment e)
    (h' : Asks sigil comment e') : e = e' := by
  rw [← expression?_eq_some_iff] at h h'
  exact Option.some.inj (h.symm.trans h')

private theorem Asks.isSolid {sigil : Bool} {comment e : Text} (h : Asks sigil comment e) :
    e.IsSolid := by
  obtain ⟨gap, rest, -, -, hsolid, rfl⟩ := h
  split
  · obtain ⟨ends, -, -, hlast⟩ := Text.exists_trimEndWhile_append Text.isBlank rest
    refine ⟨by simp, by simp [Text.isBlank], fun d hd => ?_⟩
    rcases (Text.trimEnd rest).eq_nil_or_concat' with hnil | ⟨t, a, ht⟩
    · rw [hnil] at hd
      obtain rfl : '$' = d := by simpa using hd
      rfl
    · rw [ht, ← List.cons_append, List.getLast?_concat] at hd
      rw [Text.trimEnd] at ht
      rw [ht, List.getLast?_concat] at hlast
      exact hlast d hd
  · exact ⟨trim_ne_nil_iff.2 hsolid, Text.isBlank_head?_trim rest, Text.isBlank_getLast?_trim rest⟩

/-- Markers are not empty, and none starts with another one. -/
structure AreDistinct (markers : List Text) : Prop where
  nil_notMem : [] ∉ markers
  eq_of_isPrefix : ∀ m ∈ markers, ∀ m' ∈ markers, m <+: m' → m = m'

private theorem AreDistinct.eq_of_isPrefix_of_isPrefix {markers : List Text}
    (h : AreDistinct markers)
    {m m' t : Text} (hm : m ∈ markers) (hm' : m' ∈ markers) (ht : m <+: t) (ht' : m' <+: t) :
    m = m' := by
  rcases List.prefix_or_prefix_of_prefix ht ht' with hp | hp
  · exact h.eq_of_isPrefix m hm m' hm' hp
  · exact (h.eq_of_isPrefix m' hm' m hm hp).symm

/-- An occurrence of a marker in a line. -/
structure Occurrence (markers : List Text) (line : Text) where
  before : Text
  marker : Text
  after : Text
  mem : marker ∈ markers
  eq : line = before ++ (marker ++ after)

namespace Occurrence

variable {markers : List Text} {line : Text}

def start (o : Occurrence markers line) : Nat :=
  o.before.length

def stop (o : Occurrence markers line) : Nat :=
  o.start + o.marker.length

def Overlaps (o o' : Occurrence markers line) : Prop :=
  o.start < o'.start ∧ o'.start < o.stop

/-- No occurrence reaches into this one from the left. -/
def IsClear (o : Occurrence markers line) : Prop :=
  ∀ o' : Occurrence markers line, ¬ o'.Overlaps o

/-- No occurrence that counts reaches into this one from the left. -/
def Counts (o : Occurrence markers line) : Prop :=
  ∀ (o' : Occurrence markers line) (_ : o'.Overlaps o), ¬ o'.Counts
termination_by o.start
decreasing_by
  next h => exact h.1

private theorem counts_iff {o : Occurrence markers line} :
    o.Counts ↔ ∀ o' : Occurrence markers line, o'.Overlaps o → ¬ o'.Counts := by
  rw [Counts]

private theorem IsClear.counts {o : Occurrence markers line} (h : o.IsClear) : o.Counts :=
  counts_iff.2 fun o' ho' => absurd ho' (h o')

/-- An occurrence asks for `e` and counts, and of those from position `n` on that ask and count it is
the leftmost. -/
structure Leads (dollarIsSigil : Bool) (n : Nat) (o : Occurrence markers line) (e : Text) :
    Prop where
  counts : o.Counts
  le_start : n ≤ o.start
  asks : Asks dollarIsSigil o.after e
  leftmost : ∀ o' : Occurrence markers line, o'.Counts → n ≤ o'.start →
    (∃ e', Asks dollarIsSigil o'.after e') → o.start ≤ o'.start

private theorem drop_start (o : Occurrence markers line) : line.drop o.start = o.marker ++ o.after
    := by
  obtain ⟨x, m, r, -, rfl⟩ := o
  exact List.drop_left

private theorem marker_append_after {o : Occurrence markers line} {x t : Text}
    (hline : line = x ++ t) (h : o.start = x.length) : o.marker ++ o.after = t := by
  rw [← o.drop_start, h, hline, List.drop_left]

private theorem length_marker_pos (hmarkers : AreDistinct markers) (o : Occurrence markers line) :
    0 < o.marker.length :=
  List.length_pos_iff.2 fun hnil => hmarkers.nil_notMem (hnil ▸ o.mem)

private theorem eq_of_start_eq (hmarkers : AreDistinct markers) {o o' : Occurrence markers line}
    (h : o.start = o'.start) : o = o' := by
  obtain ⟨x, m, r, hm, hline⟩ := o
  obtain ⟨x', m', r', hm', hline'⟩ := o'
  obtain ⟨rfl, hrest⟩ := List.append_inj (hline.symm.trans hline') h
  obtain rfl := hmarkers.eq_of_isPrefix_of_isPrefix hm hm' ⟨r, rfl⟩ ⟨r', hrest.symm⟩
  obtain rfl := List.append_cancel_left hrest
  rfl

private theorem stop_le (o : Occurrence markers line) : o.stop ≤ line.length := by
  have hlength := congrArg List.length o.eq
  rw [List.length_append, List.length_append] at hlength
  rw [stop, start]
  omega

private theorem exists_leads_start_iff (hmarkers : AreDistinct markers) {sigil : Bool}
    {o : Occurrence markers line} (hcounts : o.Counts) {e e' : Text}
    (hasks : Asks sigil o.after e) :
    (∃ o' : Occurrence markers line, o'.Leads sigil o.start e') ↔ e = e' := by
  constructor
  · rintro ⟨o', ho'⟩
    have hle := ho'.leftmost o hcounts (Nat.le_refl _) ⟨e, hasks⟩
    obtain rfl := eq_of_start_eq hmarkers (Nat.le_antisymm hle ho'.le_start)
    exact hasks.unique ho'.asks
  · rintro rfl
    exact ⟨o, hcounts, Nat.le_refl _, hasks, fun _ _ hle _ => hle⟩

theorem exists_leads {sigil : Bool}
    (h : ∃ o : Occurrence markers line, o.Counts ∧ ∃ e, Asks sigil o.after e) :
    ∃ (o : Occurrence markers line) (e : Text), o.Leads sigil 0 e := by
  obtain ⟨o, ⟨hcounts, e, hasks⟩, hleast⟩ :=
    (measure (@start markers line)).wf.has_min
      {o | o.Counts ∧ ∃ e, Asks sigil o.after e} h
  refine ⟨o, e, hcounts, Nat.zero_le _, hasks, fun o' hcounts' _ hasks' => ?_⟩
  exact Nat.le_of_not_lt (hleast o' ⟨hcounts', hasks'⟩)

/-- The search has come to position `n` and is to skip `k` characters: those up to the end of an
occurrence that counts. -/
structure Stands (markers : List Text) (line : Text) (n k : Nat) : Prop where
  stop_le : ∀ o : Occurrence markers line, o.Counts → o.start < n → o.stop ≤ n + k
  exists_stop : k ≠ 0 → ∃ o : Occurrence markers line, o.Counts ∧ o.start < n ∧ o.stop = n + k

namespace Stands

variable {n k : Nat}

theorem start : Stands markers line 0 0 :=
  ⟨fun _ _ h => absurd h (Nat.not_lt_zero _), fun h => absurd rfl h⟩

private theorem start_ne (h : Stands markers line n (k + 1)) {o : Occurrence markers line}
    (ho : o.Counts) : o.start ≠ n := by
  obtain ⟨o', hcounts, hlt, hstop⟩ := h.exists_stop (Nat.succ_ne_zero k)
  intro hstart
  exact counts_iff.1 ho o' ⟨by omega, by omega⟩ hcounts

theorem skip (h : Stands markers line n (k + 1)) : Stands markers line (n + 1) k where
  stop_le o ho hlt := by
    have hne := h.start_ne ho
    have hle := h.stop_le o ho (by omega)
    omega
  exists_stop _ := by
    obtain ⟨o, ho, hlt, hstop⟩ := h.exists_stop (Nat.succ_ne_zero k)
    exact ⟨o, ho, by omega, by omega⟩

theorem pass (h : Stands markers line n 0) (hn : ∀ o : Occurrence markers line, o.start ≠ n) :
    Stands markers line (n + 1) 0 where
  stop_le o ho hlt := by
    have hne := hn o
    have hle := h.stop_le o ho (by omega)
    omega
  exists_stop hk := absurd rfl hk

private theorem counts (h : Stands markers line n 0) {o : Occurrence markers line}
    (hn : o.start = n) : o.Counts := by
  refine counts_iff.2 fun o' hoverlaps hcounts => ?_
  obtain ⟨hlt, hstop⟩ := hoverlaps
  have hle := h.stop_le o' hcounts (by omega)
  omega

private theorem meet (hmarkers : AreDistinct markers) (h : Stands markers line n 0)
    {o : Occurrence markers line} (hn : o.start = n) :
    Stands markers line (n + 1) (o.marker.length - 1) where
  stop_le o' ho' hlt := by
    by_cases hstart : o'.start = n
    · rw [eq_of_start_eq hmarkers (hstart.trans hn.symm), stop]
      omega
    · have hle := h.stop_le o' ho' (by omega)
      omega
  exists_stop _ := by
    have hpos := o.length_marker_pos hmarkers
    exact ⟨o, h.counts hn, by omega, by rw [stop]; omega⟩

end Stands

private theorem exists_leads_succ_iff {sigil : Bool} {n : Nat} {e : Text}
    (h : ∀ o : Occurrence markers line, o.Counts → o.start = n → ∀ e', ¬ Asks sigil o.after e') :
    (∃ o : Occurrence markers line, o.Leads sigil (n + 1) e) ↔
      ∃ o : Occurrence markers line, o.Leads sigil n e := by
  have hlt : ∀ o : Occurrence markers line, o.Counts → n ≤ o.start →
      (∃ e', Asks sigil o.after e') → n + 1 ≤ o.start := by
    intro o hcounts hle ⟨e', hasks⟩
    have hne : o.start ≠ n := fun heq => h o hcounts heq e' hasks
    omega
  constructor
  · rintro ⟨o, ho⟩
    refine ⟨o, ho.counts, Nat.le_of_succ_le ho.le_start, ho.asks, fun o' hcounts hle hasks => ?_⟩
    exact ho.leftmost o' hcounts (hlt o' hcounts hle hasks) hasks
  · rintro ⟨o, ho⟩
    refine ⟨o, ho.counts, hlt o ho.counts ho.le_start ⟨e, ho.asks⟩, ho.asks, ?_⟩
    intro o' hcounts hle hasks
    exact ho.leftmost o' hcounts (Nat.le_of_succ_le hle) hasks

end Occurrence

variable {style : CommentStyle}

open Occurrence (Stands marker_append_after exists_leads_succ_iff)

private theorem exists_occurrence_of_firstAt? {markers : List Text} {line x t m : Text}
    (hline : line = x ++ t) (h : Text.firstAt? markers t = some m) :
    ∃ o : Occurrence markers line, o.start = x.length ∧ o.marker = m := by
  obtain ⟨r, hr⟩ : m <+: t := Text.startsWith_iff.1 (by simpa using List.find?_some h)
  exact ⟨⟨x, m, r, List.mem_of_find?_eq_some h, by rw [hr, hline]⟩, rfl, rfl⟩

/-- Where the search goes on, it finds what the leftmost occurrence from there on asks for among
those that count and ask. -/
theorem searchFrom_eq_some_iff (hmarkers : AreDistinct style.markers) {line x t : Text} {k : Nat}
    (hline : line = x ++ t) (h : Stands style.markers line x.length k) {e : Text} :
    searchFrom style k t = some e ↔
      ∃ o : Occurrence style.markers line, o.Leads style.dollarIsSigil x.length e := by
  induction t generalizing x k with
  | nil =>
    have hnone : searchFrom style k [] = none := by cases k <;> rfl
    rw [hnone]
    refine ⟨nofun, fun ⟨o, ho⟩ => ?_⟩
    have hstop := o.stop_le
    have hpos := o.length_marker_pos hmarkers
    have hle := ho.le_start
    have hend : line.length = x.length := by rw [hline, List.append_nil]
    rw [Occurrence.stop] at hstop
    omega
  | cons c t ih =>
    have hnext : line = (x ++ [c]) ++ t := by rw [hline, List.append_assoc, List.singleton_append]
    have hlength : (x ++ [c]).length = x.length + 1 := List.length_append
    cases k with
    | succ k =>
      rw [searchFrom, ih hnext (hlength ▸ h.skip), hlength, exists_leads_succ_iff]
      exact fun o ho hstart => absurd hstart (h.start_ne ho)
    | zero =>
      cases hfirst : Text.firstAt? style.markers (c :: t) with
      | none =>
        have hnowhere : ∀ o : Occurrence style.markers line, o.start ≠ x.length := by
          intro o hstart
          have hsome := Text.isSome_firstAt?_iff.2
            ⟨o.marker, o.mem, _, marker_append_after hline hstart⟩
          rw [hfirst] at hsome
          cases hsome
        have hsearch : searchFrom style 0 (c :: t) = searchFrom style 0 t := by
          simp only [searchFrom, hfirst]
        rw [hsearch, ih hnext (hlength ▸ h.pass hnowhere), hlength, exists_leads_succ_iff]
        exact fun o _ hstart => absurd hstart (hnowhere o)
      | some m =>
        -- An occurrence starts here; if it asks for nothing, the search goes on behind its marker.
        obtain ⟨o, hstart, rfl⟩ := exists_occurrence_of_firstAt? hline hfirst
        have hdrop : (c :: t).drop o.marker.length = o.after := by
          rw [← marker_append_after hline hstart, List.drop_left]
        cases hasked : expression? style.dollarIsSigil o.after with
        | none =>
          have hsearch : searchFrom style 0 (c :: t) =
              searchFrom style (o.marker.length - 1) t := by
            simp only [searchFrom, hfirst, hdrop, hasked]
          rw [hsearch, ih hnext (hlength ▸ h.meet hmarkers hstart), hlength,
            exists_leads_succ_iff]
          intro o' _ hstart' e' hasks
          rw [Occurrence.eq_of_start_eq hmarkers (hstart'.trans hstart.symm),
            ← expression?_eq_some_iff, hasked] at hasks
          cases hasks
        | some e' =>
          have hsearch : searchFrom style 0 (c :: t) = some e' := by
            simp only [searchFrom, hfirst, hdrop, hasked]
          rw [hsearch, Option.some.injEq, ← hstart]
          exact (Occurrence.exists_leads_start_iff hmarkers (h.counts hstart)
            (expression?_eq_some_iff.1 hasked)).symm

private theorem search?_eq_some_iff (hmarkers : AreDistinct style.markers) {line e : Text} :
    search? style line = some e ↔
      ∃ o : Occurrence style.markers line, o.Leads style.dollarIsSigil 0 e :=
  searchFrom_eq_some_iff hmarkers (x := []) rfl Stands.start

private theorem mem_collect_iff {p : Probe} {n : Nat} {ls : List Text} :
    p ∈ collect style n ls ↔
      n ≤ p.line ∧ ∃ line, ls[p.line - n]? = some line ∧ search? style line = some p.expression := by
  induction ls generalizing n with
  | nil => simp [collect]
  | cons l ls ih =>
    have hcollect : p ∈ collect style n (l :: ls) ↔
        p.line = n ∧ search? style l = some p.expression ∨ p ∈ collect style (n + 1) ls := by
      rw [collect]
      cases p with
      | mk line expression =>
        split <;> simp [*, eq_comm]
    rw [hcollect, ih]
    constructor
    · rintro (⟨hn, hsearch⟩ | ⟨hlt, line, hline, hsearch⟩)
      · exact ⟨hn.ge, l, by simp [hn], hsearch⟩
      · refine ⟨by omega, line, ?_, hsearch⟩
        rwa [show p.line - n = p.line - (n + 1) + 1 by omega, List.getElem?_cons_succ]
    · rintro ⟨hle, line, hline, hsearch⟩
      by_cases hn : p.line = n
      · rw [hn, Nat.sub_self, List.getElem?_cons_zero, Option.some.injEq] at hline
        exact Or.inl ⟨hn, hline ▸ hsearch⟩
      · refine Or.inr ⟨by omega, line, ?_, hsearch⟩
        rwa [show p.line - n = p.line - (n + 1) + 1 by omega, List.getElem?_cons_succ] at hline

private theorem pairwise_collect (n : Nat) (ls : List Text) :
    (collect style n ls).Pairwise (·.line < ·.line) := by
  induction ls generalizing n with
  | nil => exact List.Pairwise.nil
  | cons l ls ih =>
    rw [collect]
    split
    · exact List.pairwise_cons.2 ⟨fun p hp => (mem_collect_iff.1 hp).1, ih (n + 1)⟩
    · exact ih (n + 1)

end Probe

namespace Language

open Probe (Asks Occurrence)

private theorem areDistinct_markers (l : Language) : Probe.AreDistinct l.comments.markers where
  nil_notMem := by cases l <;> decide
  eq_of_isPrefix := by cases l <;> decide

private theorem dollarIsSigil_comments (l : Language) : l.comments.dollarIsSigil = decide (l = .php)
    := by
  cases l <;> rfl

private theorem mem_probes_iff {l : Language} {code : Text} {p : Probe} :
    p ∈ l.probes code ↔ 1 ≤ p.line ∧ ∃ line, (Text.lines code)[p.line - 1]? = some line ∧
      ∃ o : Occurrence l.comments.markers line, o.Leads (decide (l = .php)) 0 p.expression := by
  rw [probes, Probe.extract, Probe.mem_collect_iff]
  simp only [Probe.search?_eq_some_iff l.areDistinct_markers, l.dollarIsSigil_comments]

/-- The probes of a snippet come in the order of its lines, at most one for each. What a probe holds
is asked for behind a marker of its line. A line on which an occurrence of a marker counts and asks
for something has a probe, and this is for the leftmost such occurrence. -/
theorem probes_leading (l : Language) (code : Text) :
    (l.probes code).Pairwise (·.line < ·.line) ∧
      (∀ p ∈ l.probes code, 1 ≤ p.line ∧ ∃ line, (Text.lines code)[p.line - 1]? = some line ∧
        (∃ o : Occurrence l.comments.markers line,
          o.Counts ∧ Asks (decide (l = .php)) o.after p.expression) ∧ p.expression.IsSolid) ∧
      ∀ n line, (Text.lines code)[n]? = some line →
        (∃ o : Occurrence l.comments.markers line,
          o.Counts ∧ ∃ e, Asks (decide (l = .php)) o.after e) →
        ∃ (o : Occurrence l.comments.markers line) (e : Text),
          o.Counts ∧ Asks (decide (l = .php)) o.after e ∧
          (∀ o' : Occurrence l.comments.markers line, o'.Counts →
            (∃ e', Asks (decide (l = .php)) o'.after e') → o.start ≤ o'.start) ∧
          ⟨n + 1, e⟩ ∈ l.probes code := by
  refine ⟨Probe.pairwise_collect 1 _, fun p hp => ?_, fun n line hline h => ?_⟩
  · obtain ⟨hpos, line, hline, o, ho⟩ := mem_probes_iff.1 hp
    exact ⟨hpos, line, hline, ⟨o, ho.counts, ho.asks⟩, ho.asks.isSolid⟩
  · obtain ⟨o, e, ho⟩ := Occurrence.exists_leads h
    refine ⟨o, e, ho.counts, ho.asks, fun o' hcounts => ho.leftmost o' hcounts (Nat.zero_le _), ?_⟩
    exact mem_probes_iff.2 ⟨Nat.le_add_left .., line, hline, o, ho⟩

/-- Four slashes hold three occurrences. The third counts, as the second does not, and asks for more
than the only occurrence that is clear and asks for something. -/
theorem probes_miss_clear_occurrence :
    (∃ o : Occurrence javaScript.comments.markers "////$ x // $ y".toList,
      o.IsClear ∧ Asks false o.after ['y']) ∧
    ∀ (o : Occurrence javaScript.comments.markers "////$ x // $ y".toList) (e : Text),
      o.IsClear → Asks false o.after e → ⟨1, e⟩ ∉ javaScript.probes "////$ x // $ y".toList := by
  have hplaces : ∀ o : Occurrence javaScript.comments.markers "////$ x // $ y".toList,
      o.stop = o.start + 2 ∧ o.after = "////$ x // $ y".toList.drop (o.start + 2) ∧
        (o.start = 0 ∨ o.start = 1 ∨ o.start = 2 ∨ o.start = 8) := by
    intro o
    have hmarker : o.marker = ['/', '/'] := List.mem_singleton.1 o.mem
    have hdrop := o.drop_start
    rw [hmarker] at hdrop
    have hlength : o.stop = o.start + 2 := by rw [Occurrence.stop, hmarker]; rfl
    have hstop := o.stop_le
    rw [hlength] at hstop
    have hall : ∀ n ≤ 12, ['/', '/'] <+: "////$ x // $ y".toList.drop n →
        n = 0 ∨ n = 1 ∨ n = 2 ∨ n = 8 := by decide
    refine ⟨hlength, ?_, hall o.start (Nat.le_of_add_le_add_right hstop) ⟨o.after, hdrop.symm⟩⟩
    rw [← List.drop_drop, hdrop]
    rfl
  let first : Occurrence javaScript.comments.markers "////$ x // $ y".toList :=
    ⟨[], "//".toList, "//$ x // $ y".toList, by decide, rfl⟩
  let second : Occurrence javaScript.comments.markers "////$ x // $ y".toList :=
    ⟨"/".toList, "//".toList, "/$ x // $ y".toList, by decide, rfl⟩
  constructor
  · refine ⟨⟨"////$ x ".toList, "//".toList, " $ y".toList, by decide, rfl⟩, fun o ho => ?_,
      Probe.expression?_eq_some_iff.1 rfl⟩
    obtain ⟨hlt : o.start < 8, hreach : 8 < o.stop⟩ := ho
    obtain ⟨hstop, -, hstart⟩ := hplaces o
    omega
  · intro o e hclear hasks hmem
    obtain ⟨-, hafter, hstart | hstart | hstart | hstart⟩ := hplaces o
    · rw [hafter, hstart, ← Probe.expression?_eq_some_iff] at hasks
      cases hasks
    · exact hclear first ⟨by rw [hstart]; decide, by rw [hstart]; decide⟩
    · exact hclear second ⟨by rw [hstart]; decide, by rw [hstart]; decide⟩
    · rw [hafter, hstart, ← Probe.expression?_eq_some_iff] at hasks
      obtain rfl := Option.some.inj hasks
      revert hmem
      decide

end Language

end Scratchpad
