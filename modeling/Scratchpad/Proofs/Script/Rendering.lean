import Scratchpad.Script

/-!
Rendering goes through. Whether a template can be rendered depends on the names of its placeholders
alone (`Template.exists_render`), and the templates of all languages name only what is put in. So
every snippet can be made into a program (`Script.exists_build`).
-/

set_option autoImplicit false
set_option relaxedAutoImplicit false

namespace Scratchpad

namespace Template

/-- Whether every placeholder from a place on is closed and has one of these names. -/
def isSound (names : List Text) : Place → Text → Bool
  | .between, [] => true
  | .between, '@' :: '@' :: t => isSound names (.inside []) t
  | .between, _ :: t => isSound names .between t
  | .inside _, [] => false
  | .inside name, '@' :: '@' :: t => names.contains name.reverse && isSound names .between t
  | .inside name, c :: t => isSound names (.inside (c :: name)) t

def names : Place → Text → List Text
  | .between, [] => []
  | .between, '@' :: '@' :: t => names (.inside []) t
  | .between, _ :: t => names .between t
  | .inside _, [] => []
  | .inside name, '@' :: '@' :: t => name.reverse :: names .between t
  | .inside name, c :: t => names (.inside (c :: name)) t

theorem exists_lookup {values : List (Text × Text)} {name : Text}
    (h : name ∈ values.map Prod.fst) : ∃ v, values.lookup name = some v := by
  induction values with
  | nil => simp at h
  | cons p values ih =>
    obtain ⟨k, v⟩ := p
    by_cases hk : name = k
    · exact ⟨v, by simp [hk]⟩
    · obtain ⟨u, hu⟩ := ih (by simpa [hk] using h)
      exact ⟨u, by simp only [List.lookup_cons, beq_false_of_ne hk, hu]⟩

private theorem exists_renderFrom {values : List (Text × Text)} {p : Place} {t : Text}
    (h : isSound (values.map Prod.fst) p t = true) : ∃ u, renderFrom values p t = .ok u := by
  fun_induction renderFrom values p t with
  | case1 => exact ⟨[], rfl⟩
  | case2 t ih =>
    rw [isSound] at h
    exact ih h
  | case3 c t hc ih =>
    rw [isSound] at h
    · obtain ⟨u, hu⟩ := ih h
      exact ⟨c :: u, by rw [hu]; rfl⟩
    · exact hc
  | case4 name => simp [isSound] at h
  | case5 name t v hv ih =>
    rw [isSound, Bool.and_eq_true] at h
    obtain ⟨u, hu⟩ := ih h.2
    exact ⟨v ++ u, by rw [hu]; rfl⟩
  | case6 name t hv =>
    rw [isSound, Bool.and_eq_true, List.contains_iff_mem] at h
    obtain ⟨v, hv'⟩ := exists_lookup h.1
    rw [hv] at hv'
    simp at hv'
  | case7 name c t hc ih =>
    rw [isSound] at h
    · exact ih h
    · exact hc

private theorem exists_render {template : Text} {values : List (Text × Text)}
    (h : isSound (values.map Prod.fst) .between template = true) :
    ∃ u, render template values = .ok u :=
  exists_renderFrom h

/-- Strings with their characters. -/
inductive Spelled : List String → List Text → Prop
  | nil : Spelled [] []
  | cons {ss : List String} {ts : List Text} (t : Text) (h : Spelled ss ts) :
    Spelled (String.ofList t :: ss) (t :: ts)

theorem Spelled.ofLines {ss : List String} {ts : List Text} (h : Spelled ss ts) :
    Text.ofLines ss = ts.flatMap fun t => t ++ ['\n'] := by
  induction h with
  | nil => rfl
  | @cons ss ts t h ih =>
    rw [Text.ofLines, List.flatMap_cons, String.toList_ofList, ← Text.ofLines, ih, List.flatMap_cons]

private theorem Spelled.check_ofLines {check : Text → Bool} {ss : List String} {ts : List Text}
    (h : Spelled ss ts) (hcheck : check (ts.flatMap fun t => t ++ ['\n']) = true) :
    check (Text.ofLines ss) = true := by
  rw [h.ofLines, hcheck]

end Template

namespace Language

def placeholders : List Text :=
  ["START".toList, "END".toList, "CODE".toList, "PROBES".toList, "PACKAGES".toList]

private theorem map_fst_harnessValues (l : Language) (code : Text) (probes : List Probe)
    (dir : Text) : (l.harnessValues code probes dir).map Prod.fst = placeholders :=
  rfl

/-- Whether the placeholders of a template are those for which there is a text, each of them. -/
def isFilled (template : Text) : Bool :=
  Template.isSound placeholders .between template &&
    placeholders.all (Template.names .between template).contains

private theorem isFilled_template (l : Language) : isFilled l.template = true := by
  cases l with
  | javaScript =>
    apply Template.Spelled.check_ofLines
    · unfold Harness.javaScriptLines
      repeat constructor
    · decide +kernel
  | python =>
    apply Template.Spelled.check_ofLines
    · unfold Harness.pythonLines
      repeat constructor
    · decide +kernel
  | php =>
    apply Template.Spelled.check_ofLines
    · unfold Harness.phpLines
      repeat constructor
    · decide +kernel
  | ruby =>
    apply Template.Spelled.check_ofLines
    · unfold Harness.rubyLines
      repeat constructor
    · decide +kernel

private theorem isSound_template (l : Language) :
    Template.isSound placeholders .between l.template = true :=
  (Bool.and_eq_true_iff.1 l.isFilled_template).1

theorem mem_names_template (l : Language) {name : Text} (h : name ∈ placeholders) :
    name ∈ Template.names .between l.template := by
  have hall := List.all_eq_true.1 (Bool.and_eq_true_iff.1 l.isFilled_template).2 name h
  rwa [List.contains_iff_mem] at hall

theorem exists_renderHarness (l : Language) (code : Text) (probes : List Probe) (dir : Text) :
    ∃ source, l.renderHarness code probes dir = .ok source :=
  Template.exists_render (l.map_fst_harnessValues code probes dir ▸ l.isSound_template)

end Language

theorem Script.exists_build (l : Language) (code : Text) (probes : List Probe) (echo : Bool)
    (packagesDir : Text) : ∃ s, build l code probes echo packagesDir = .ok s := by
  obtain ⟨source, h⟩ := l.exists_renderHarness (prepared l code echo) probes packagesDir
  exact ⟨⟨l, source, probes⟩, by rw [build, h]; rfl⟩

end Scratchpad
