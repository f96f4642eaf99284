import Scratchpad.Proofs.Echo.Repetition

/-!
What echoing does to a snippet, piece by piece. A piece stays as it is, or it is made of the parts
that `Rules.Parts` lists, and then nothing happens to it but that its expression is wrapped: the
indentation, the comment and the carriage return stay, and so does the count of braces and of
parentheses (`Language.forall₂_pieces_transform`).
-/

set_option autoImplicit false
set_option relaxedAutoImplicit false

namespace Scratchpad

namespace Text

/-- How many more opening marks than closing ones a text holds. -/
def surplus (opening closing : Char) (t : Text) : Int :=
  (t.count opening : Int) - t.count closing

end Text

namespace Echo

private theorem Scan.countDepth_eq_iff {s : Scan} {x y : Text} :
    s.countDepth x = s.countDepth y ↔
      Text.surplus '\x7b' '\x7d' x = Text.surplus '\x7b' '\x7d' y ∧
        Text.surplus '(' ')' x = Text.surplus '(' ')' y := by
  simp only [countDepth, Scan.mk.injEq, and_true, Text.surplus]
  constructor <;> rintro ⟨hbraces, hparens⟩ <;> constructor <;> omega

namespace Rules

variable {rules : Rules} {line echo code : Text} {comment : Option Text}

theorem HasMarkers.not_isInfix (h : rules.HasMarkers) {t : Text} (ht : rules.comment? t = none) :
    ∀ m ∈ rules.lineComments, ¬ m <:+: t := by
  intro m hm hmt
  induction t with
  | nil =>
    rw [List.infix_nil.1 hmt] at hm
    exact h.nil_notMem hm
  | cons a t ih =>
    obtain ⟨ha, ht⟩ := comment?_cons_eq_none_iff.1 ht
    rcases List.infix_cons_iff.1 hmt with hprefix | hinfix
    · rw [isComment_iff.2 ⟨m, hm, hprefix⟩] at ha
      cases ha
    · exact ih ht hinfix

/-- A piece of a snippet in its parts: indentation, an expression, perhaps a semicolon, perhaps a
comment and perhaps a carriage return, with blanks between them. -/
structure Parts (rules : Rules) where
  indent : Text
  expression : Text
  gap : Text
  semicolon : Text
  space : Text
  comment : Option Text
  trailing : Text
  ret : Text
  isBlank_indent : ∀ c ∈ indent, Text.isBlank c = true
  ne_nil : expression ≠ []
  trim_eq : Text.trim expression = expression
  not_isInfix : ∀ m ∈ rules.lineComments, ¬ m <:+: expression
  isBlank_gap : ∀ c ∈ gap, Text.isBlank c = true
  semicolon_eq : semicolon = [] ∨ semicolon = [';']
  isBlank_space : ∀ c ∈ space, Text.isBlank c = true
  isComment : ∀ c ∈ comment, rules.isComment c = true
  isBlank_trailing : ∀ c ∈ trailing, Text.isBlank c = true
  ret_eq : ret = ['\r'] ∨ ret = []

namespace Parts

def piece (w : rules.Parts) : Text :=
  w.indent ++ w.expression ++ w.gap ++ w.semicolon ++ w.space ++ w.comment.getD [] ++ w.trailing ++
    w.ret

def wrapped (w : rules.Parts) : Text :=
  w.indent ++
    (rules.wrap w.expression (rules.simpleName.any (·.accepts w.expression)) ++ rules.terminator) ++
    commentTail w.comment ++ w.ret

end Parts

private theorem Echoes.isSolid_expressionOf (h : rules.Echoes line echo code comment) :
    (expressionOf code).IsSolid where
  ne_nil := h.ne_nil
  head c hc := by
    obtain ⟨gap, -, htrim, -⟩ := exists_of_splitComment h.split
    obtain ⟨rest, hrest⟩ := expressionOf_isPrefix code
    refine Text.isBlank_head?_trim line c ?_
    rw [htrim, ← hrest, List.append_assoc, List.head?_append_of_ne_nil _ h.ne_nil]
    exact hc
  last c hc := by
    unfold expressionOf at hc
    obtain ⟨ends, -, -, hlast⟩ := Text.exists_trimEndWhile_append Text.isBlank
      (if code.getLast? = some ';' then code.dropLast else code)
    exact hlast c hc

private theorem Echoes.exists_parts (h : rules.Echoes line echo code comment)
    (hs : rules.HasMarkers) {ret : Text} (hret : ret = ['\r'] ∨ ret = []) :
    ∃ w : rules.Parts, line ++ ret = w.piece ∧ echo ++ ret = w.wrapped ∧
      w.indent = Text.indentation line := by
  obtain ⟨trailing, htrailing, hline⟩ := Text.exists_indentation_append_trim line
  obtain ⟨space, hspace, htrim, hcomment, hnone⟩ := exists_of_splitComment h.split
  obtain ⟨gap, hgap, hcode⟩ := exists_expressionOf_append code
  have hexpression : rules.comment? (expressionOf code) = none :=
    comment?_eq_none_of_isPrefix (expressionOf_isPrefix code) hnone
  have hmarked : ∀ c ∈ comment, rules.isComment c = true := by
    rintro c rfl
    obtain ⟨-, -, -, hc⟩ := comment?_eq_some hcomment
    exact hc
  have hsemicolon : ∃ semicolon, (semicolon = [] ∨ semicolon = [';']) ∧
      code = expressionOf code ++ (gap ++ semicolon) := by
    rcases hcode with hcode | hcode
    · exact ⟨[], Or.inl rfl, by rwa [List.append_nil]⟩
    · exact ⟨[';'], Or.inr rfl, hcode⟩
  obtain ⟨semicolon, hsemi, hcode⟩ := hsemicolon
  let w : rules.Parts := {
    indent := Text.indentation line
    expression := expressionOf code
    gap, semicolon, space, comment, trailing, ret
    isBlank_indent := Text.isBlank_of_mem_indentation
    ne_nil := h.ne_nil
    trim_eq := h.isSolid_expressionOf.trim_eq
    not_isInfix := hs.not_isInfix hexpression
    isBlank_gap := hgap
    semicolon_eq := hsemi
    isBlank_space := hspace
    isComment := hmarked
    isBlank_trailing := htrailing
    ret_eq := hret }
  refine ⟨w, ?_, by rw [h.echo_eq]; rfl, rfl⟩
  have hparts : line = Text.indentation line ++
      (expressionOf code ++ (gap ++ semicolon) ++ (space ++ comment.getD []) ++ trailing) := by
    rw [← hcode, ← htrim, ← hline]
  rw [Parts.piece]
  conv_lhs => rw [hparts]
  simp only [w, List.append_assoc]

/-- A piece stays, or its expression is wrapped and its marks are counted as before. -/
inductive Wraps (rules : Rules) : Text → Text → Prop
  | same (p : Text) : Wraps rules p p
  | wrap (w : rules.Parts) (htop : rules.topLevelOnly = true → w.indent = [])
      (hdepth : ∀ s : Scan, s.countDepth w.wrapped = s.countDepth w.piece) :
    Wraps rules w.piece w.wrapped

private theorem wraps_stepPiece (hs : rules.IsSettled) (s : Scan) (p : Text) :
    rules.Wraps p (rules.stepPiece s p).2 := by
  rcases stepPiece_cases s p with hsame | ⟨echo, hecho, hpiece⟩
  · rw [hsame]
    exact .same p
  · obtain ⟨code, comment, h⟩ := exists_echoes_of_echoLine? hecho
    obtain ⟨w, hline, hwrapped, hindent⟩ := h.exists_parts hs.toHasMarkers (Text.splitReturn_cases p)
    have hp : p = w.piece := (Text.splitReturn_append p).symm.trans hline
    have hdepth : ∀ s : Scan, s.countDepth w.wrapped = s.countDepth w.piece := by
      intro s
      rw [← hwrapped, ← hline, Scan.countDepth_append, Scan.countDepth_append, h.countDepth_eq hs]
    rw [hpiece, hwrapped, hp]
    exact .wrap w (fun htop => hindent.trans (h.topLevel htop)) hdepth

end Rules

end Echo

namespace Language

open Text (surplus)

/-- An echoed snippet has a piece for each piece of the snippet: the same, or one in which nothing
but the expression has been wrapped. -/
theorem forall₂_pieces_transform (l : Language) (code : Text) :
    List.Forall₂ (fun p q => q = p ∨ ∃ w : l.echo.Parts, p = w.piece ∧ q = w.wrapped ∧
        (l = .python ∨ l = .ruby → w.indent = []) ∧
        surplus '\x7b' '\x7d' q = surplus '\x7b' '\x7d' p ∧ surplus '(' ')' q = surplus '(' ')' p)
      (Text.pieces code) (Text.pieces (l.echo.transform code)) := by
  have hwraps := Echo.Rules.forall₂_of_stepPiece (Echo.Rules.wraps_stepPiece l.echo_isSettled) {}
    (Text.pieces code)
  rw [l.pieces_transform]
  refine hwraps.imp ?_
  rintro p q (_ | ⟨w, htop, hdepth⟩)
  · exact Or.inl rfl
  · have htopLevel : l = .python ∨ l = .ruby → l.echo.topLevelOnly = true := by
      rintro (rfl | rfl) <;> rfl
    have hsurplus := Echo.Scan.countDepth_eq_iff.1 (hdepth {})
    exact Or.inr ⟨w, rfl, rfl, fun hl => htop (htopLevel hl), hsurplus⟩

example : javaScript.echo.transform "if (a) \x7b\n  b\n\x7d\n  b.c ; // $ b".toList =
    "if (a) \x7b\n  b\n\x7d\n  console.log(b.c); // $ b".toList := rfl

end Language

end Scratchpad
