import Scratchpad.Proofs.Script.Literal
import Scratchpad.Proofs.Script.Rendering

/-!
What a program tells of the snippet in it. Two renderings of a template that come to the same text
have put the same text in the place of each placeholder, as long as no text for a placeholder begins
another text for it (`Template.lookup_eq_of_renderFrom`). The texts that are put in are prefix-free
literals, so the program determines the snippet and its probes (`Script.source_embeds`).
-/

set_option autoImplicit false
set_option relaxedAutoImplicit false

namespace Scratchpad

namespace Template

private theorem exists_of_map_append_eq_ok {r : Except Fault Text} {v u : Text}
    (h : r.map (v ++ ·) = .ok u) : ∃ w, r = .ok w ∧ u = v ++ w := by
  cases r with
  | error e => cases h
  | ok w => exact ⟨w, rfl, (Except.ok.inj h).symm⟩

private theorem lookup_eq_of_renderFrom {values values' : List (Text × Text)}
    (hsep : ∀ name v v', values.lookup name = some v → values'.lookup name = some v' →
      Text.Separate v v') {p : Place} {t u : Text} (h : renderFrom values p t = .ok u)
    (h' : renderFrom values' p t = .ok u) :
    ∀ name ∈ names p t, values.lookup name = values'.lookup name := by
  fun_induction renderFrom values p t generalizing u with
  | case1 => simp [names]
  | case2 t ih =>
    rw [renderFrom] at h'
    rw [names]
    exact ih h h'
  | case3 c t hc ih =>
    rw [renderFrom] at h'
    · obtain ⟨w, hw, rfl⟩ := exists_of_map_append_eq_ok (v := [c]) h
      obtain ⟨w', hw', hu⟩ := exists_of_map_append_eq_ok (v := [c]) h'
      rw [List.append_cancel_left_eq] at hu
      rw [names]
      · exact ih hw (hu ▸ hw')
      · exact hc
    · exact hc
  | case4 name => cases h
  | case5 name t v hv ih =>
    rw [renderFrom] at h'
    cases hv' : values'.lookup name.reverse with
    | none =>
      rw [hv'] at h'
      cases h'
    | some v' =>
      rw [hv'] at h'
      obtain ⟨w, hw, rfl⟩ := exists_of_map_append_eq_ok h
      obtain ⟨w', hw', hu⟩ := exists_of_map_append_eq_ok h'
      -- Both texts start with what was put in here, so it is the same, and so is what follows.
      obtain rfl : v = v' := hsep name.reverse v v' hv hv' hu
      rw [List.append_cancel_left_eq] at hu
      rw [names, List.forall_mem_cons]
      exact ⟨hv.trans hv'.symm, ih hw (hu ▸ hw')⟩
  | case6 name t hv => cases h
  | case7 name c t hc ih =>
    rw [renderFrom] at h'
    · rw [names]
      · exact ih h h'
      · exact hc
    · exact hc

private theorem separate_of_lookup {values values' : List (Text × Text)}
    (h : List.Forall₂ (fun p q => p.1 = q.1 ∧ Text.Separate p.2 q.2) values values')
    {name v v' : Text} (hv : values.lookup name = some v) (hv' : values'.lookup name = some v') :
    Text.Separate v v' := by
  induction h with
  | nil => cases hv
  | @cons p q _ _ hpq _ ih =>
    obtain ⟨hkey, hsep⟩ := hpq
    rw [List.lookup_cons] at hv hv'
    rw [← hkey] at hv'
    cases hname : name == p.1 with
    | true =>
      simp only [hname, Option.some.injEq] at hv hv'
      exact hv ▸ hv' ▸ hsep
    | false =>
      simp only [hname] at hv hv'
      exact ih hv hv'

private theorem lookup_eq_of_render {values values' : List (Text × Text)} {template u : Text}
    (hsep : List.Forall₂ (fun p q => p.1 = q.1 ∧ Text.Separate p.2 q.2) values values')
    (h : render template values = .ok u) (h' : render template values' = .ok u) {name : Text}
    (hname : name ∈ names .between template) : values.lookup name = values'.lookup name :=
  lookup_eq_of_renderFrom (fun _ _ _ hv hv' => separate_of_lookup hsep hv hv') h h' name hname

end Template

namespace Language

private theorem separate_harnessValues (l : Language) (code code' dir dir' : Text)
    (probes probes' : List Probe) :
    List.Forall₂ (fun p q => p.1 = q.1 ∧ Text.Separate p.2 q.2)
      (l.harnessValues code probes dir) (l.harnessValues code' probes' dir') := by
  have hlit := l.prefixFree_literal.separate
  have hprobes := l.prefixFree_probesLiteral.separate probes probes'
  exact .cons ⟨rfl, .refl _⟩ <| .cons ⟨rfl, .refl _⟩ <| .cons ⟨rfl, hlit code code'⟩ <|
    .cons ⟨rfl, hprobes⟩ <| .cons ⟨rfl, hlit _ _⟩ .nil

private theorem renderHarness_inj {l : Language} {code code' dir dir' : Text}
    {probes probes' : List Probe}
    (h : l.renderHarness code probes dir = l.renderHarness code' probes' dir') :
    code = code' ∧ probes = probes' ∧ l.modulesDir dir = l.modulesDir dir' := by
  obtain ⟨source, hsource⟩ := l.exists_renderHarness code probes dir
  have hsource' := h ▸ hsource
  have hsep := l.separate_harnessValues code code' dir dir' probes probes'
  have hlookup : ∀ name ∈ placeholders, (l.harnessValues code probes dir).lookup name =
      (l.harnessValues code' probes' dir').lookup name := fun name hname =>
    Template.lookup_eq_of_render hsep hsource hsource' (l.mem_names_template hname)
  have hcode : some (l.literal code) = some (l.literal code') := hlookup "CODE".toList (by decide)
  have hprobes : some (l.probesLiteral probes) = some (l.probesLiteral probes') :=
    hlookup "PROBES".toList (by decide)
  have hdir : some (l.literal (l.modulesDir dir)) = some (l.literal (l.modulesDir dir')) :=
    hlookup "PACKAGES".toList (by decide)
  exact ⟨l.prefixFree_literal.injective (Option.some.inj hcode),
    l.prefixFree_probesLiteral.injective (Option.some.inj hprobes),
    l.prefixFree_literal.injective (Option.some.inj hdir)⟩

end Language

/-- Every snippet can be made into a program, and the program determines the snippet in it, its
probes and the directory of its packages. -/
theorem Script.source_embeds (l : Language) (code : Text) (probes : List Probe) (dir : Text) :
    (∀ echo, ∃ source, build l code probes echo dir = .ok ⟨l, source, probes⟩ ∧
      l.renderHarness (prepared l code echo) probes dir = .ok source) ∧
    ∀ code' probes' dir',
      l.renderHarness code probes dir = l.renderHarness code' probes' dir' ↔
        code = code' ∧ probes = probes' ∧ l.modulesDir dir = l.modulesDir dir' := by
  refine ⟨fun echo => ?_, fun code' probes' dir' => ⟨Language.renderHarness_inj, ?_⟩⟩
  · obtain ⟨source, h⟩ := l.exists_renderHarness (prepared l code echo) probes dir
    exact ⟨source, by rw [build, h]; rfl, h⟩
  · rintro ⟨rfl, rfl, hdir⟩
    rw [Language.renderHarness, Language.renderHarness, Language.harnessValues,
      Language.harnessValues, hdir]

end Scratchpad
