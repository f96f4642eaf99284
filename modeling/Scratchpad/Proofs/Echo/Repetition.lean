import Mathlib.Data.Bool.AllAny
import Scratchpad.Proofs.Echo.Probes
import Scratchpad.Proofs.Echo.Scan

/-!
Echoing an echoed snippet. An echo is known as an output call, so that it is not wrapped again. The
scan stands behind an echo where it stands behind its line: all that differs between the two are idle
characters and a pair of parentheses (`Echoes.trackString_eq`). Hence every line of an echoed snippet
is judged in the same state as the line at its place, and the snippet stays as it is
(`Language.transform_transform`).
-/

set_option autoImplicit false
set_option relaxedAutoImplicit false

namespace Scratchpad

namespace Echo.Rules

variable {rules : Rules} {line echo code : Text} {comment : Option Text}

/-- A name that calls, with an opening parenthesis behind it, for something to be put out. -/
structure IsCallee (rules : Rules) (w : Text) : Prop where
  idle : ∀ c ∈ w, IsIdle c
  solid : Text.IsSolid (w ++ ['('])
  not_isComment : rules.isComment w = false
  not_blockComment : ∀ b ∈ rules.blockComment, ¬ b.1 <+: w ∧ ¬ w <+: b.1
  not_isCandidate : ∀ t, rules.isCandidate (w ++ '(' :: t) = false

/-- Output calls are known as such, and the scan passes over all that is put around expressions. -/
structure IsSettled (rules : Rules) : Prop extends rules.IsSound where
  delimiters : AreQuotes rules.blockStrings
  markers : ∀ m ∈ rules.lineComments, ∀ c ∈ m.head?, c ∉ quotes
  semicolon : ∀ c ∈ rules.terminator, c = ';'
  callee : ∀ e simple, ∃ w, rules.wrap e simple = w ++ '(' :: (e ++ [')']) ∧ rules.IsCallee w

private theorem isCandidate_eq_false (h : rules.keywords.contains (Text.leadingWord code) = true ∨
    rules.outputCalls.any (Text.startsWith · code) = true) : rules.isCandidate code = false := by
  rcases h with h | h <;> simp only [isCandidate, h, Bool.not_true, Bool.and_false, Bool.false_and]

private theorem exists_commentTail (comment : Option Text) :
    ∃ gap, (∀ c ∈ gap, Text.isBlank c = true) ∧ commentTail comment = gap ++ comment.getD [] := by
  cases comment with
  | none => exact ⟨[], by simp, rfl⟩
  | some c => exact ⟨[' '], List.forall_mem_singleton.2 rfl, rfl⟩

private theorem IsSettled.head?_comment (hs : rules.IsSettled) {c : Text}
    (hc : rules.isComment c = true) : ∀ a ∈ c.head?, a ∉ quotes := by
  obtain ⟨m, hm, t, rfl⟩ := isComment_iff.1 hc
  have hhead := hs.markers m hm
  cases m with
  | nil => exact absurd hm hs.nil_notMem
  | cons b m => exact hhead

private theorem Echoes.exists_line_eq (h : rules.Echoes line echo code comment) :
    ∃ x y z, (∀ c ∈ x, IsIdle c) ∧ (∀ c ∈ y, IsIdle c) ∧ (∀ c ∈ z, IsIdle c) ∧
      line = x ++ (expressionOf code ++ (y ++ (comment.getD [] ++ z))) := by
  obtain ⟨trailing, htrailing, hline⟩ := Text.exists_indentation_append_trim line
  obtain ⟨gap, hgap, htrim, -, -⟩ := exists_of_splitComment h.split
  obtain ⟨inner, hinner, hcode⟩ := exists_expressionOf_append code
  have hend : ∃ y, (∀ c ∈ y, IsIdle c) ∧ code = expressionOf code ++ y := by
    rcases hcode with hcode | hcode
    · exact ⟨inner, fun c hc => isIdle_of_isBlank (hinner c hc), hcode⟩
    · have hsemicolon : ∀ c ∈ [';'], IsIdle c := List.forall_mem_singleton.2 (by decide)
      refine ⟨inner ++ [';'], List.forall_mem_append.2 ⟨?_, hsemicolon⟩, hcode⟩
      exact fun c hc => isIdle_of_isBlank (hinner c hc)
  obtain ⟨y, hy, hcode⟩ := hend
  refine ⟨Text.indentation line, y ++ gap, trailing, ?_, List.forall_mem_append.2 ⟨hy, ?_⟩, ?_, ?_⟩
  · exact fun c hc => isIdle_of_isBlank (Text.isBlank_of_mem_indentation c hc)
  · exact fun c hc => isIdle_of_isBlank (hgap c hc)
  · exact fun c hc => isIdle_of_isBlank (htrailing c hc)
  · conv_lhs => rw [hline, htrim, hcode]
    simp only [List.append_assoc]

private theorem Echoes.getLast?_commentTail (h : rules.Echoes line echo code comment)
    (hs : rules.IsSettled) : ∀ c ∈ (commentTail comment).getLast?, Text.isBlank c = false := by
  obtain ⟨gap, -, htrim, hcomment, -⟩ := exists_of_splitComment h.split
  cases comment with
  | none => simp [commentTail]
  | some c =>
    obtain ⟨x, -, -, hmarked⟩ := comment?_eq_some hcomment
    have hne : c ≠ [] := by
      rintro rfl
      rw [hs.isComment_nil] at hmarked
      cases hmarked
    have hlast := Text.isBlank_getLast?_trim line
    rw [htrim, Option.getD_some, ← List.append_assoc, List.getLast?_append_of_ne_nil _ hne] at hlast
    rwa [commentTail, ← List.singleton_append, List.getLast?_append_of_ne_nil _ hne]

private theorem Echoes.exists_echo_eq (h : rules.Echoes line echo code comment)
    (hs : rules.IsSettled) : ∃ w t, rules.IsCallee w ∧ Text.IsSolid (w ++ '(' :: t) ∧
      t = expressionOf code ++ ')' :: (rules.terminator ++ commentTail comment) ∧
      echo = Text.indentation line ++ (w ++ '(' :: t) := by
  obtain ⟨w, hw, hcallee⟩ := hs.callee (expressionOf code)
    (rules.simpleName.any (·.accepts (expressionOf code)))
  refine ⟨w, _, hcallee, ⟨by simp, ?_, ?_⟩, rfl, ?_⟩
  · have hhead := hcallee.solid.head
    cases w with
    | nil => exact hhead
    | cons a w => exact hhead
  · have hterminator : ∀ c ∈ rules.terminator.getLast?, Text.isBlank c = false := by
      intro c hc
      rw [hs.semicolon c (List.mem_of_getLast? hc)]
      rfl
    have hclosing : ∀ c ∈ (w ++ '(' :: expressionOf code ++ [')']).getLast?,
        Text.isBlank c = false := by
      rw [List.getLast?_concat]
      rintro c ⟨⟩
      rfl
    have hend := Text.forall_getLast?_append hclosing
      (Text.forall_getLast?_append hterminator (h.getLast?_commentTail hs))
    simpa using hend
  · rw [h.echo_eq, hw]
    simp

private theorem Echoes.isBlank_getLast? (h : rules.Echoes line echo code comment)
    (hs : rules.IsSettled) : ∀ c ∈ echo.getLast?, Text.isBlank c = false := by
  obtain ⟨w, t, -, hsolid, -, rfl⟩ := h.exists_echo_eq hs
  rw [List.getLast?_append_of_ne_nil _ hsolid.ne_nil]
  exact hsolid.last

private theorem Echoes.exists_echo_parts (h : rules.Echoes line echo code comment)
    (hs : rules.IsSettled) : ∃ x y, (∀ c ∈ x, IsIdle c) ∧ (∀ c ∈ y, IsIdle c) ∧
      echo = x ++ '(' :: (expressionOf code ++ ')' :: (y ++ comment.getD [])) := by
  obtain ⟨w, t, hw, -, ht, hecho⟩ := h.exists_echo_eq hs
  obtain ⟨gap, hgap, htail⟩ := exists_commentTail comment
  refine ⟨Text.indentation line ++ w, rules.terminator ++ gap, List.forall_mem_append.2 ⟨?_, hw.idle⟩,
    List.forall_mem_append.2 ⟨?_, ?_⟩, ?_⟩
  · exact fun c hc => isIdle_of_isBlank (Text.isBlank_of_mem_indentation c hc)
  · intro c hc
    rw [hs.semicolon c hc]
    decide
  · exact fun c hc => isIdle_of_isBlank (hgap c hc)
  · rw [hecho, ht, htail]
    simp

theorem Echoes.countDepth_eq (h : rules.Echoes line echo code comment) (hs : rules.IsSettled)
    (s : Scan) : s.countDepth echo = s.countDepth line := by
  obtain ⟨x, y, z, hx, hy, hz, hline⟩ := h.exists_line_eq
  obtain ⟨x', y', hx', hy', hecho⟩ := h.exists_echo_parts hs
  calc
    s.countDepth echo =
        s.countDepth (x' ++ (expressionOf code ++ (y' ++ (comment.getD [] ++ [])))) := by
      rw [hecho, Scan.countDepth_parentheses, List.append_nil]
    _ = (s.countDepth (expressionOf code)).countDepth (comment.getD []) :=
      s.countDepth_parts (fun c hc => (hx' c hc).2) (fun c hc => (hy' c hc).2) (by simp)
    _ = s.countDepth (x ++ (expressionOf code ++ (y ++ (comment.getD [] ++ z)))) :=
      (s.countDepth_parts (fun c hc => (hx c hc).2) (fun c hc => (hy c hc).2)
        fun c hc => (hz c hc).2).symm
    _ = s.countDepth line := by rw [← hline]

private theorem Echoes.stringAfter_eq (h : rules.Echoes line echo code comment)
    (hs : rules.IsSettled) : Scan.stringAfter rules.blockStrings none 0 echo =
      Scan.stringAfter rules.blockStrings none 0 line := by
  obtain ⟨x, y, z, hx, hy, hz, hline⟩ := h.exists_line_eq
  obtain ⟨x', y', hx', hy', hecho⟩ := h.exists_echo_parts hs
  obtain ⟨-, -, -, hcomment, -⟩ := exists_of_splitComment h.split
  have hhead : ∀ a ∈ (comment.getD []).head?, a ∉ quotes := by
    cases comment with
    | none => simp
    | some c =>
      obtain ⟨-, -, -, hmarked⟩ := comment?_eq_some hcomment
      exact hs.head?_comment hmarked
  have hbefore : ∀ c ∈ x' ++ ['('], c ∉ quotes :=
    List.forall_mem_append.2
      ⟨fun c hc => (hx' c hc).1, List.forall_mem_singleton.2 (by decide)⟩
  have hbehind : ∀ c ∈ ')' :: y', c ∉ quotes :=
    List.forall_mem_cons.2 ⟨by decide, fun c hc => (hy' c hc).1⟩
  calc
    Scan.stringAfter rules.blockStrings none 0 echo =
        Scan.stringAfter rules.blockStrings none 0
          ((x' ++ ['(']) ++ (expressionOf code ++ ((')' :: y') ++ (comment.getD [] ++ [])))) := by
      rw [hecho]
      simp
    _ = Scan.stringAfter rules.blockStrings
          (Scan.stringAfter rules.blockStrings none 0 (expressionOf code)) 0 (comment.getD []) :=
      Scan.stringAfter_parts hs.delimiters hbefore hbehind hhead (by simp)
    _ = Scan.stringAfter rules.blockStrings none 0
          (x ++ (expressionOf code ++ (y ++ (comment.getD [] ++ z)))) :=
      (Scan.stringAfter_parts hs.delimiters (fun c hc => (hx c hc).1) (fun c hc => (hy c hc).1)
        hhead fun c hc => (hz c hc).1).symm
    _ = Scan.stringAfter rules.blockStrings none 0 line := by rw [← hline]

private theorem Echoes.trackString_eq (h : rules.Echoes line echo code comment)
    (hs : rules.IsSettled) {s : Scan} (hcode : s.within = .code) :
    (s.countDepth echo).trackString rules echo = (s.countDepth line).trackString rules line := by
  have hwithin : (s.countDepth line).within = .code := hcode
  rw [h.countDepth_eq hs]
  simp only [Scan.trackString, hwithin, h.stringAfter_eq hs]

private theorem splitComment_append {w x : Text} (hw : w.IsSolid)
    (h : rules.comment? (w ++ (x ++ comment.getD [])) = comment) :
    ∃ t, (rules.splitComment (w ++ (x ++ comment.getD []))).1 = w ++ t := by
  unfold splitComment
  rw [h]
  cases comment with
  | none => exact ⟨_, rfl⟩
  | some c =>
    have htake : (w ++ (x ++ c)).take ((w ++ (x ++ c)).length - c.length) = w ++ x := by
      rw [← List.append_assoc, List.length_append, Nat.add_sub_cancel, List.take_left]
    have hend := hw.trimEnd_append [] x
    simp only [List.nil_append] at hend
    refine ⟨Text.trimEnd x, ?_⟩
    rw [Option.getD_some]
    dsimp only
    rw [htake, hend]

private theorem Echoes.trim_echo (h : rules.Echoes line echo code comment) (hs : rules.IsSettled) :
    ∃ w t, rules.IsCallee w ∧ Text.trim echo = w ++ '(' :: t ∧
      ∃ t', (rules.splitComment (Text.trim echo)).1 = w ++ '(' :: t' := by
  obtain ⟨w, t, hw, hsolid, ht, hecho⟩ := h.exists_echo_eq hs
  obtain ⟨gap, hgap, htail⟩ := exists_commentTail comment
  have htrim : Text.trim echo = w ++ '(' :: t := by
    rw [hecho, Text.trim_append_solid Text.isBlank_of_mem_indentation hsolid]
  have hparts : w ++ '(' :: t = (w ++ ['(']) ++
      ((expressionOf code ++ ')' :: (rules.terminator ++ gap)) ++ comment.getD []) := by
    rw [ht, htail]
    simp
  have hcomment : rules.comment? (w ++ '(' :: t) = comment := by
    rw [← h.comment?_eq hs.toIsSound, hecho, comment?_foreign_append hs.toHasMarkers fun c hc =>
      hs.foreign_of_isBlank c (Text.isBlank_of_mem_indentation c hc)]
  rw [hparts] at hcomment
  obtain ⟨t', ht'⟩ := splitComment_append hw.solid hcomment
  refine ⟨w, t, hw, htrim, t', ?_⟩
  rw [htrim, hparts, ht']
  simp

private theorem Echoes.echoLine?_echo (h : rules.Echoes line echo code comment)
    (hs : rules.IsSettled) : rules.echoLine? echo = none := by
  obtain ⟨w, t, hw, -, t', hsplit⟩ := h.trim_echo hs
  have hcandidate : rules.isCandidate (rules.splitComment (Text.trim echo)).1 = false := by
    rw [hsplit, hw.not_isCandidate]
  simp [echoLine?, hcandidate]

private theorem of_step_eq_some {s : Scan} (h : (rules.step s line).2 = some echo) :
    s.within = .code ∧ (rules.step s line).1 = (s.countDepth line).trackString rules line := by
  unfold step at h ⊢
  cases hcode : s.within with
  | blockString d =>
    simp only [hcode] at h
    cases h
  | blockComment =>
    simp only [hcode] at h
    cases h
  | code =>
    simp only [hcode] at h ⊢
    split_ifs at h ⊢
    exact ⟨trivial, rfl⟩

private theorem step_echo (hs : rules.IsSettled) {s : Scan} (h : (rules.step s line).2 = some echo)
    : rules.step s echo = ((rules.step s line).1, none) := by
  obtain ⟨hcode, hstate⟩ := of_step_eq_some h
  obtain ⟨code, comment, hechoes⟩ := exists_echoes_of_echoLine? (step_eq_echoLine? h)
  obtain ⟨w, t, hw, htrim, -⟩ := hechoes.trim_echo hs
  have hcomment : rules.isComment (Text.trim echo) = false := by
    rw [htrim, isComment_append_cons hs.opening, hw.not_isComment]
  have hblock : ∀ b ∈ rules.blockComment, Text.startsWith b.1 (Text.trim echo) = false := by
    intro b hb
    obtain ⟨hbw, hwb⟩ := hw.not_blockComment b hb
    rw [Text.startsWith_eq_false_iff, htrim]
    intro hp
    rcases List.prefix_or_prefix_of_prefix hp (List.prefix_append w _) with hp | hp
    · exact hbw hp
    · exact hwb hp
  have hnone := hechoes.echoLine?_echo hs
  rw [hstate, ← hechoes.trackString_eq hs hcode]
  unfold step
  simp only [hcode, hcomment, hnone]
  cases hb : rules.blockComment with
  | none => simp
  | some b => simp [hblock b hb]

private theorem stepPiece_stepPiece (hs : rules.IsSettled) (s : Scan) (p : Text) :
    rules.stepPiece s (rules.stepPiece s p).2 = rules.stepPiece s p := by
  cases h : rules.step s (Text.splitReturn p).1 with
  | mk s' echo? =>
    cases echo? with
    | none =>
      have hp : rules.stepPiece s p = (s', p) := by simp only [stepPiece, h]
      rw [hp, hp]
    | some echo =>
      have hp : rules.stepPiece s p = (s', echo ++ (Text.splitReturn p).2) := by
        simp only [stepPiece, h]
      have hsplit : Text.splitReturn (echo ++ (Text.splitReturn p).2) =
          (echo, (Text.splitReturn p).2) := by
        obtain ⟨code, comment, hechoes⟩ :=
          exists_echoes_of_echoLine? (step_eq_echoLine? (congrArg Prod.snd h))
        refine Text.splitReturn_append_of_ne (Text.splitReturn_cases p) fun hlast => ?_
        have hsolid := hechoes.isBlank_getLast? hs '\r' hlast
        cases hsolid
      have hstep := step_echo hs (congrArg Prod.snd h)
      rw [h] at hstep
      rw [hp]
      simp only [stepPiece, hsplit, hstep]

private theorem transformPieces_transformPieces (hs : rules.IsSettled) (s : Scan) (ps : List Text) :
    rules.transformPieces s (rules.transformPieces s ps) = rules.transformPieces s ps := by
  -- before each piece both passes are in the same state
  induction ps generalizing s with
  | nil => rfl
  | cons p ps ih =>
    rw [transformPieces]
    dsimp only
    rw [transformPieces, stepPiece_stepPiece hs]
    dsimp only
    rw [ih]

end Echo.Rules

namespace Language

def callee : Language → (simple : Bool) → Text
  | .javaScript, _ => "console.log".toList
  | .python, _ => "print".toList
  | .php, true => "var_export".toList
  | .php, false => "var_dump".toList
  | .ruby, _ => "p".toList

private theorem isCallee_callee (l : Language) (simple : Bool) : l.echo.IsCallee
    (l.callee simple) where
  idle := by
    have hall : (l.callee simple).all (fun c => Echo.IsIdle c) = true := by
      cases l <;> cases simple <;> decide
    exact List.all_iff_forall_prop.1 hall
  solid := by
    cases l <;> cases simple <;>
      exact ⟨by decide, fun c hc => by cases hc; decide, fun c hc => by cases hc; decide⟩
  not_isComment := by cases l <;> cases simple <;> decide
  not_blockComment := by cases l <;> cases simple <;> decide
  not_isCandidate t := by
    apply Echo.Rules.isCandidate_eq_false
    -- in Ruby the name is a keyword, elsewhere the call is listed
    cases l with
    | javaScript => exact Or.inr rfl
    | python => exact Or.inr rfl
    | php => cases simple <;> exact Or.inr rfl
    | ruby => exact Or.inl rfl

theorem echo_isSettled (l : Language) : l.echo.IsSettled where
  toIsSound := l.echo_isSound
  delimiters := by cases l <;> decide
  markers := by
    have hmarkers : l.echo.lineComments ⊆ [['/', '/'], ['#']] := by cases l <;> decide
    intro m hm c hc
    have hm' := hmarkers hm
    rw [List.mem_cons, List.mem_singleton] at hm'
    rcases hm' with rfl | rfl <;> cases hc <;> decide
  semicolon := by
    have hterminator : l.echo.terminator ⊆ [';'] := by cases l <;> decide
    exact fun c hc => List.mem_singleton.1 (hterminator hc)
  callee e simple := by
    refine ⟨l.callee simple, ?_, l.isCallee_callee simple⟩
    cases l <;> cases simple <;> rfl

theorem pieces_transform (l : Language) (code : Text) :
    Text.pieces (l.echo.transform code) = l.echo.transformPieces {} (Text.pieces code) := by
  have hlike := Echo.Rules.forall₂_transformPieces l.echo_isSound l.comments_hasMarkers
    l.lineComments_echo {} (Text.pieces code)
  have hne : l.echo.transformPieces {} (Text.pieces code) ≠ [] := fun hnil => by
    rw [hnil, List.forall₂_nil_right_iff] at hlike
    exact Text.pieces_ne_nil code hlike
  exact Text.pieces_joinPieces hne (Echo.Rules.lineFeed_notMem_of_forall₂ hlike fun p hp =>
    Text.lineFeed_notMem_of_mem_pieces hp)

/-- Echoing an echoed snippet changes nothing. -/
theorem transform_transform (l : Language) (code : Text) :
    l.echo.transform (l.echo.transform code) = l.echo.transform code := by
  calc
    l.echo.transform (l.echo.transform code) =
        Text.joinPieces (l.echo.transformPieces {} (Text.pieces (l.echo.transform code))) := rfl
    _ = Text.joinPieces (l.echo.transformPieces {} (Text.pieces code)) := by
      rw [l.pieces_transform, Echo.Rules.transformPieces_transformPieces l.echo_isSettled]
    _ = l.echo.transform code := rfl

end Language

end Scratchpad
