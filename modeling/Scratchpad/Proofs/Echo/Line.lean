import Mathlib.Data.List.TakeWhile
import Scratchpad.Echo.Language
import Scratchpad.Proofs.Echo.Comment
import Scratchpad.Proofs.Text.Trim

/-!
A line and its echo. `Rules.Echoes` lists what is true of a line that is echoed and of what it is made
of: indentation, expression, perhaps a semicolon, perhaps a comment, and blanks between them. The
echo has the same comment as the line (`Echoes.comment?_eq`).
-/

set_option autoImplicit false
set_option relaxedAutoImplicit false

namespace Scratchpad

namespace Text

private theorem exists_trimEnd_append (t : Text) :
    ∃ gap, (∀ c ∈ gap, isBlank c = true) ∧ t = trimEnd t ++ gap := by
  obtain ⟨gap, hgap, ht, -⟩ := exists_trimEndWhile_append isBlank t
  exact ⟨gap, hgap, ht⟩

theorem exists_indentation_append_trim (t : Text) :
    ∃ gap, (∀ c ∈ gap, isBlank c = true) ∧ t = indentation t ++ (trim t ++ gap) := by
  obtain ⟨gap, hgap, ht⟩ := exists_trimEnd_append (trimStart t)
  refine ⟨gap, hgap, ?_⟩
  rw [trim, ← ht, indentation_append_trimStart]

theorem isBlank_of_mem_indentation {t : Text} : ∀ c ∈ indentation t, isBlank c = true :=
  fun _ hc => List.mem_takeWhile_imp hc

end Text

namespace Echo.Rules

variable {rules : Rules}

theorem exists_of_splitComment {t code : Text} {comment : Option Text}
    (h : rules.splitComment t = (code, comment)) :
    ∃ gap, (∀ c ∈ gap, Text.isBlank c = true) ∧ t = code ++ (gap ++ comment.getD []) ∧
      rules.comment? t = comment ∧ rules.comment? code = none := by
  unfold splitComment at h
  split at h
  · next c hc =>
    obtain ⟨rfl, rfl⟩ := Prod.mk.inj h
    obtain ⟨x, rfl, hx, -⟩ := comment?_eq_some hc
    obtain ⟨gap, hgap, hgx⟩ := Text.exists_trimEnd_append x
    rw [List.length_append, Nat.add_sub_cancel, List.take_left]
    refine ⟨gap, hgap, ?_, hc, comment?_eq_none_of_isPrefix (Text.trimEnd_isPrefix x) hx⟩
    rw [Option.getD_some, ← List.append_assoc, ← hgx]
  · next hnone =>
    obtain ⟨rfl, rfl⟩ := Prod.mk.inj h
    exact ⟨[], by simp, by simp, hnone, hnone⟩

theorem exists_expressionOf_append (code : Text) :
    ∃ gap, (∀ c ∈ gap, Text.isBlank c = true) ∧
      (code = expressionOf code ++ gap ∨ code = expressionOf code ++ (gap ++ [';'])) := by
  unfold expressionOf
  split
  · next hlast =>
    obtain ⟨x, rfl⟩ := List.getLast?_eq_some_iff.1 hlast
    obtain ⟨gap, hgap, hx⟩ := Text.exists_trimEnd_append x
    refine ⟨gap, hgap, Or.inr ?_⟩
    rw [List.dropLast_concat, ← List.append_assoc, ← hx]
  · obtain ⟨gap, hgap, hcode⟩ := Text.exists_trimEnd_append code
    exact ⟨gap, hgap, Or.inl hcode⟩

theorem expressionOf_isPrefix (code : Text) : expressionOf code <+: code := by
  obtain ⟨gap, -, h | h⟩ := exists_expressionOf_append code
  · exact ⟨gap, h.symm⟩
  · exact ⟨gap ++ [';'], h.symm⟩

def commentTail : Option Text → Text
  | some c => ' ' :: c
  | none => []

/-- A line with this code and this comment has this echo. -/
structure Echoes (rules : Rules) (line echo code : Text) (comment : Option Text) : Prop where
  noBrace : (Text.trim line).head? ≠ some '\x7b' ∧ (Text.trim line).head? ≠ some '\x7d'
  topLevel : rules.topLevelOnly = true → Text.indentation line = []
  split : rules.splitComment (Text.trim line) = (code, comment)
  candidate : rules.isCandidate code = true
  ne_nil : expressionOf code ≠ []
  accepted : ∃ p, rules.expression = some p ∧ p.accepts (expressionOf code) = true
  echo_eq : echo = Text.indentation line ++
    (rules.wrap (expressionOf code) (rules.simpleName.any (·.accepts (expressionOf code))) ++
      rules.terminator) ++ commentTail comment

theorem exists_echoes_of_echoLine? {line echo : Text} (h : rules.echoLine? line = some echo) :
    ∃ code comment, rules.Echoes line echo code comment := by
  simp only [echoLine?] at h
  split_ifs at h with hbrace htop hcandidate
  obtain ⟨call, hcall, hecho⟩ := Option.map_eq_some_iff.1 h
  unfold call? at hcall
  split at hcall
  · cases hcall
  · next p hp =>
    dsimp only at hcall
    split_ifs at hcall with haccepts
    rw [Bool.and_eq_true, Bool.not_eq_true', List.isEmpty_eq_false_iff] at haccepts
    rw [not_or] at hbrace
    refine ⟨_, _, hbrace, fun ht => ?_, rfl, hcandidate, haccepts.1, ⟨p, hp, haccepts.2⟩, ?_⟩
    · by_contra hne
      exact htop ⟨ht, hne⟩
    · rw [← hecho, ← Option.some.inj hcall]
      rfl

/-- An output call holds no comment and no line feed but what its expression holds. -/
structure IsSound (rules : Rules) : Prop extends rules.HasMarkers where
  wrap_eq : ∀ e simple, ∃ w, rules.wrap e simple = w ++ '(' :: (e ++ [')']) ∧
    rules.comment? w = none ∧ '\n' ∉ w
  opening : rules.Foreign '('
  closing : rules.Foreign ')'
  terminator : ∀ c ∈ rules.terminator, rules.Foreign c ∧ c ≠ '\n'

variable {line echo code : Text} {comment : Option Text}

private theorem HasMarkers.comment?_commentTail (h : rules.HasMarkers)
    (hc : ∀ c ∈ comment, rules.isComment c = true) :
    rules.comment? (commentTail comment) = comment := by
  cases comment with
  | none => rfl
  | some c =>
    have hblank : ∀ d ∈ [' '], rules.Foreign d :=
      List.forall_mem_singleton.2 (h.foreign_of_isBlank ' ' rfl)
    rw [commentTail, ← List.singleton_append, comment?_foreign_append h hblank,
      comment?_eq_self h (hc c rfl)]

theorem Echoes.comment?_eq (h : rules.Echoes line echo code comment) (hs : rules.IsSound) :
    rules.comment? echo = comment := by
  obtain ⟨gap, -, -, hcomment, hcode⟩ := exists_of_splitComment h.split
  obtain ⟨w, hw, hwnone, -⟩ := hs.wrap_eq (expressionOf code)
    (rules.simpleName.any (·.accepts (expressionOf code)))
  have hmarks := hs.toHasMarkers
  have hindent : rules.comment? (Text.indentation line ++ w) = none := by
    rw [comment?_foreign_append hmarks fun c hc =>
      hmarks.foreign_of_isBlank c (Text.isBlank_of_mem_indentation c hc), hwnone]
  have hexpression : rules.comment? (expressionOf code) = none :=
    comment?_eq_none_of_isPrefix (expressionOf_isPrefix code) hcode
  have hassoc : echo = (Text.indentation line ++ w) ++ '(' ::
      (expressionOf code ++ ')' :: (rules.terminator ++ commentTail comment)) := by
    rw [h.echo_eq, hw]
    simp
  have hmarked : ∀ c ∈ comment, rules.isComment c = true := by
    rintro c rfl
    obtain ⟨x, -, -, hc⟩ := comment?_eq_some hcomment
    exact hc
  rw [hassoc, comment?_append_cons hmarks hs.opening hindent,
    comment?_append_cons hmarks hs.closing hexpression,
    comment?_foreign_append hmarks fun c hc => (hs.terminator c hc).1,
    hmarks.comment?_commentTail hmarked]

theorem Echoes.lineFeed_mem (h : rules.Echoes line echo code comment) (hs : rules.IsSound)
    (hecho : '\n' ∈ echo) : '\n' ∈ line := by
  obtain ⟨gap, -, htrim, -⟩ := exists_of_splitComment h.split
  obtain ⟨trailing, -, hline⟩ := Text.exists_indentation_append_trim line
  obtain ⟨w, hw, -, hfeed⟩ := hs.wrap_eq (expressionOf code)
    (rules.simpleName.any (·.accepts (expressionOf code)))
  have hcode : '\n' ∈ expressionOf code → '\n' ∈ code := fun he =>
    (expressionOf_isPrefix code).subset he
  have hterminator : '\n' ∉ rules.terminator := fun ht => (hs.terminator _ ht).2 rfl
  have htail : '\n' ∈ commentTail comment → '\n' ∈ comment.getD [] := by
    cases comment <;> simp [commentTail]
  rw [h.echo_eq, hw] at hecho
  rw [hline, htrim]
  simp only [List.mem_append, List.mem_cons, List.not_mem_nil, or_false, hfeed, hterminator,
    Char.reduceEq, false_or] at hecho ⊢
  rcases hecho with (hindent | hexpression) | hcomment
  · exact Or.inl hindent
  · exact Or.inr (Or.inl (Or.inl (hcode hexpression)))
  · exact Or.inr (Or.inl (Or.inr (Or.inr (htail hcomment))))

end Echo.Rules

namespace Language

theorem foreign_of_ne (l : Language) {c : Char} (hslash : c ≠ '/') (hsign : c ≠ '#') :
    l.echo.Foreign c := by
  have hmarkers : l.echo.lineComments ⊆ [['/', '/'], ['#']] := by cases l <;> decide
  intro m hm hc
  have hm' := hmarkers hm
  rw [List.mem_cons, List.mem_singleton] at hm'
  rcases hm' with rfl | rfl
  · simp [hslash] at hc
  · simp [hsign] at hc

theorem echo_hasMarkers (l : Language) : l.echo.HasMarkers where
  nil_notMem := by cases l <;> decide
  foreign_of_isBlank c hc := by
    apply l.foreign_of_ne <;> rintro rfl <;> cases hc

theorem echo_isSound (l : Language) : l.echo.IsSound where
  toHasMarkers := l.echo_hasMarkers
  wrap_eq e simple := by
    cases l with
    | javaScript => exact ⟨"console.log".toList, rfl, by decide, by decide⟩
    | python => exact ⟨"print".toList, rfl, by decide, by decide⟩
    | php =>
      cases simple with
      | true => exact ⟨"var_export".toList, rfl, by decide, by decide⟩
      | false => exact ⟨"var_dump".toList, rfl, by decide, by decide⟩
    | ruby => exact ⟨"p".toList, rfl, by decide, by decide⟩
  opening := l.foreign_of_ne (by decide) (by decide)
  closing := l.foreign_of_ne (by decide) (by decide)
  terminator := by
    have hterminator : l.echo.terminator ⊆ [';'] := by cases l <;> decide
    intro c hc
    rw [List.mem_singleton.1 (hterminator hc)]
    exact ⟨l.foreign_of_ne (by decide) (by decide), by decide⟩

end Language

end Scratchpad
