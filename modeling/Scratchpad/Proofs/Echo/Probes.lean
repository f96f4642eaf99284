import Scratchpad.Conventions
import Scratchpad.Proofs.Echo.Line
import Scratchpad.Proofs.Probe.Search
import Scratchpad.Proofs.Text.Line

/-!
Echoing a snippet and its probes. Each piece of the echoed snippet asks for what the piece at its
place asks for (`Rules.Likeness`), and so the probes stay as they are (`Language.probes_transform`).
-/

set_option autoImplicit false
set_option relaxedAutoImplicit false

namespace Scratchpad

namespace Echo.Rules

variable {rules : Rules} {style : Probe.CommentStyle}

theorem step_eq_echoLine? {s : Scan} {line echo : Text} (h : (rules.step s line).2 = some echo) :
    rules.echoLine? line = some echo := by
  unfold step at h
  dsimp only at h
  split at h
  · cases h
  · cases h
  · split_ifs at h
    exact h

theorem stepPiece_cases (s : Scan) (p : Text) :
    (rules.stepPiece s p).2 = p ∨
      ∃ echo, rules.echoLine? (Text.splitReturn p).1 = some echo ∧
        (rules.stepPiece s p).2 = echo ++ (Text.splitReturn p).2 := by
  unfold stepPiece
  dsimp only
  split
  · next s' echo hstep =>
    exact Or.inr ⟨echo, step_eq_echoLine? (s := s) (by rw [hstep]), rfl⟩
  · exact Or.inl rfl

/-- The second piece asks for what the first asks for, is empty only together with it and holds no
line feed of its own. -/
structure Likeness (style : Probe.CommentStyle) (p q : Text) : Prop where
  search?_eq : Probe.search? style q = Probe.search? style p
  eq_nil_iff : q = [] ↔ p = []
  lineFeed_mem : '\n' ∈ q → '\n' ∈ p

theorem Likeness.refl (style : Probe.CommentStyle) (p : Text) : Likeness style p p :=
  ⟨rfl, Iff.rfl, id⟩

private theorem search?_splitReturn (hstyle : style.HasMarkers) (p : Text) :
    Probe.search? style (Text.splitReturn p).1 = Probe.search? style p := by
  have hblank : ∀ c ∈ (Text.splitReturn p).2, Text.isBlank c = true := by
    rcases Text.splitReturn_cases p with hret | hret <;> simp [hret, Text.isBlank]
  conv_rhs => rw [← Text.splitReturn_append p, Probe.search?_append_blanks hstyle hblank]

private theorem Echoes.search?_eq {line echo code : Text} {comment : Option Text}
    (h : rules.Echoes line echo code comment) (hs : rules.IsSound) (hstyle : style.HasMarkers)
    (hmarkers : rules.lineComments = style.markers) :
    Probe.search? style echo = Probe.search? style line := by
  obtain ⟨trailing, htrailing, hline⟩ := Text.exists_indentation_append_trim line
  obtain ⟨gap, -, -, hcomment, -⟩ := exists_of_splitComment h.split
  have hindent : rules.comment? (Text.indentation line ++ Text.trim line) = comment := by
    rw [comment?_foreign_append hs.toHasMarkers fun c hc =>
      hs.foreign_of_isBlank c (Text.isBlank_of_mem_indentation c hc), hcomment]
  calc
    Probe.search? style echo = comment.bind (Probe.search? style) := by
      rw [Probe.search?_eq_bind_comment? hmarkers, h.comment?_eq hs]
    _ = Probe.search? style (Text.indentation line ++ Text.trim line) := by
      rw [Probe.search?_eq_bind_comment? hmarkers, hindent]
    _ = Probe.search? style line := by
      conv_rhs => rw [hline, ← List.append_assoc, Probe.search?_append_blanks hstyle htrailing]

private theorem Echoes.ne_nil_of_echo {line echo code : Text} {comment : Option Text}
    (h : rules.Echoes line echo code comment) (hs : rules.IsSound) : echo ≠ [] ∧ line ≠ [] := by
  constructor
  · obtain ⟨w, hw, -⟩ := hs.wrap_eq (expressionOf code)
      (rules.simpleName.any (·.accepts (expressionOf code)))
    rw [h.echo_eq, hw]
    simp
  · rintro rfl
    obtain ⟨gap, -, htrim, -⟩ := exists_of_splitComment h.split
    have hcode : code = [] := (List.append_eq_nil_iff.1 htrim.symm).1
    exact h.ne_nil (by rw [hcode]; rfl)

private theorem likeness_stepPiece (hs : rules.IsSound) (hstyle : style.HasMarkers)
    (hmarkers : rules.lineComments = style.markers) (s : Scan) (p : Text) :
    Likeness style p (rules.stepPiece s p).2 := by
  rcases stepPiece_cases s p with hsame | ⟨echo, hecho, hpiece⟩
  · rw [hsame]
    exact .refl style p
  · obtain ⟨code, comment, h⟩ := exists_echoes_of_echoLine? hecho
    obtain ⟨hne, hline⟩ := h.ne_nil_of_echo hs
    have hblank : ∀ c ∈ (Text.splitReturn p).2, Text.isBlank c = true := by
      rcases Text.splitReturn_cases p with hret | hret <;> simp [hret, Text.isBlank]
    have hp := Text.splitReturn_append p
    rw [hpiece]
    refine ⟨?_, ?_, fun hfeed => ?_⟩
    · rw [Probe.search?_append_blanks hstyle hblank, h.search?_eq hs hstyle hmarkers,
        search?_splitReturn hstyle]
    · have hpne : p ≠ [] := by
        rintro rfl
        exact hline rfl
      simp [hne, hpne]
    · rw [← hp, List.mem_append]
      exact (List.mem_append.1 hfeed).imp_left (h.lineFeed_mem hs)

theorem forall₂_of_stepPiece {R : Text → Text → Prop} (h : ∀ s p, R p (rules.stepPiece s p).2)
    (s : Scan) (ps : List Text) : List.Forall₂ R ps (rules.transformPieces s ps) := by
  induction ps generalizing s with
  | nil => exact .nil
  | cons p ps ih => exact .cons (h s p) (ih _)

theorem forall₂_transformPieces (hs : rules.IsSound) (hstyle : style.HasMarkers)
    (hmarkers : rules.lineComments = style.markers) (s : Scan) (ps : List Text) :
    List.Forall₂ (Likeness style) ps (rules.transformPieces s ps) :=
  forall₂_of_stepPiece (likeness_stepPiece hs hstyle hmarkers) s ps

theorem lineFeed_notMem_of_forall₂ {ps qs : List Text} (h : List.Forall₂ (Likeness style) ps qs)
    (hps : ∀ p ∈ ps, '\n' ∉ p) : ∀ q ∈ qs, '\n' ∉ q := by
  induction h with
  | nil => exact hps
  | cons hlike _ ih =>
    rw [List.forall_mem_cons] at hps ⊢
    exact ⟨fun hmem => hps.1 (hlike.lineFeed_mem hmem), ih hps.2⟩

end Echo.Rules

namespace Probe

open Echo.Rules (Likeness search?_splitReturn)

variable {style : CommentStyle}

private theorem extract_eq_of_likeness (hstyle : style.HasMarkers) {t u : Text}
    (h : List.Forall₂ (Likeness style) (Text.pieces t) (Text.pieces u)) :
    extract style u = extract style t := by
  obtain ⟨ps, p, hp⟩ := (Text.pieces t).eq_nil_or_concat'.resolve_left (Text.pieces_ne_nil t)
  obtain ⟨qs, q, hq⟩ := (Text.pieces u).eq_nil_or_concat'.resolve_left (Text.pieces_ne_nil u)
  rw [hp, hq, ← List.forall₂_reverse_iff, List.reverse_concat, List.reverse_concat,
    List.forall₂_cons, List.forall₂_reverse_iff] at h
  obtain ⟨hlast, hinit⟩ := h
  have hlines : qs.map (fun p => search? style (Text.splitReturn p).1) =
      ps.map fun p => search? style (Text.splitReturn p).1 := by
    simp only [search?_splitReturn hstyle]
    clear hp hq
    induction hinit with
    | nil => rfl
    | cons hlike _ ih => rw [List.map_cons, List.map_cons, hlike.search?_eq, ih]
  refine collect_congr ?_ 1
  simp only [Text.lines_eq_of_pieces hp, Text.lines_eq_of_pieces hq, List.map_append, List.map_map,
    Function.comp_def, hlines, hlast.eq_nil_iff]
  split
  · rfl
  · rw [List.map_singleton, List.map_singleton, hlast.search?_eq]

end Probe

namespace Language

theorem lineComments_echo (l : Language) : l.echo.lineComments = l.comments.markers := by
  cases l <;> rfl

theorem comments_hasMarkers (l : Language) : l.comments.HasMarkers := by
  have hforeign := l.echo_hasMarkers.foreign_of_isBlank
  simp only [Echo.Rules.Foreign, lineComments_echo] at hforeign
  exact ⟨l.lineComments_echo ▸ l.echo_hasMarkers.nil_notMem, hforeign⟩

/-- Echoing neither moves nor loses nor makes a probe. -/
theorem probes_transform (l : Language) (code : Text) :
    l.probes (l.echo.transform code) = l.probes code := by
  have hlike := Echo.Rules.forall₂_transformPieces l.echo_isSound l.comments_hasMarkers
    l.lineComments_echo {} (Text.pieces code)
  have hne : l.echo.transformPieces {} (Text.pieces code) ≠ [] := fun hnil => by
    rw [hnil, List.forall₂_nil_right_iff] at hlike
    exact Text.pieces_ne_nil code hlike
  have hfeed := Echo.Rules.lineFeed_notMem_of_forall₂ hlike fun p hp =>
    Text.lineFeed_notMem_of_mem_pieces hp
  apply Probe.extract_eq_of_likeness l.comments_hasMarkers
  rwa [Echo.Rules.transform, Text.pieces_joinPieces hne hfeed]

end Language

end Scratchpad
