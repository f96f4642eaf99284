import Scratchpad.Proofs.Echo.Exchange

/-!
What a comment does to the lines around it. The brackets in a line comment are counted, and so two
line comments are interchangeable exactly if they have the same surpluses
(`Language.interchangeable_comment_iff`). A line that starts with a block comment is not counted at
all, not even behind the comment's end, and so a block comment may be put in front of a line exactly
if the line leaves the scan as it finds it (`Language.interchangeable_commented_iff`).
-/

set_option autoImplicit false
set_option relaxedAutoImplicit false

namespace Scratchpad

namespace Text

private theorem trim_splitReturn (p : Text) : trim (splitReturn p).1 = trim p := by
  conv_rhs => rw [← splitReturn_append p]
  rcases splitReturn_cases p with hret | hret
  · rw [hret, trim_append_blank rfl]
  · rw [hret, List.append_nil]

private theorem surplus_append (opening closing : Char) (x y : Text) :
    surplus opening closing (x ++ y) = surplus opening closing x + surplus opening closing y := by
  simp only [surplus, List.count_append]
  omega

private theorem surplus_eq_zero {opening closing : Char} {t : Text} (hopening : opening ∉ t)
    (hclosing : closing ∉ t) : surplus opening closing t = 0 := by
  rw [surplus, List.count_eq_zero.2 hopening, List.count_eq_zero.2 hclosing]
  rfl

private theorem surplus_splitReturn {opening closing : Char} (hopening : opening ≠ '\r')
    (hclosing : closing ≠ '\r') (p : Text) :
    surplus opening closing (splitReturn p).1 = surplus opening closing p := by
  rw [surplus, surplus, count_splitReturn hopening, count_splitReturn hclosing]

end Text

namespace Echo

namespace Scan

theorem countDepth_empty (line : Text) :
    countDepth {} line =
      ⟨Text.surplus '\x7b' '\x7d' line, Text.surplus '(' ')' line, .code⟩ := by
  simp [countDepth, Text.surplus]

section Comments

variable {opening closing : Text}

private theorem commentAfter_length (isOpen : Bool) (x t : Text) :
    commentAfter opening closing isOpen x.length (x ++ t) =
      commentAfter opening closing isOpen 0 t := by
  induction x with
  | nil => rfl
  | cons c x ih => exact ih

private theorem commentAfter_mark {isOpen : Bool} {mark : Text}
    (hmark : (if isOpen then closing else opening) = mark) (hne : mark ≠ []) (t : Text) :
    commentAfter opening closing isOpen 0 (mark ++ t) =
      commentAfter opening closing (!isOpen) 0 t := by
  obtain ⟨c, w, rfl⟩ := List.exists_cons_of_ne_nil hne
  have hstarts : Text.startsWith (c :: w) (c :: (w ++ t)) = true :=
    Text.startsWith_iff.2 (List.prefix_append (c :: w) t)
  rw [List.cons_append, commentAfter, hmark, if_pos hstarts]
  exact commentAfter_length _ w t

private theorem commentAfter_append {isOpen : Bool} {x t : Text}
    (h : ∀ u v, x = u ++ v → v ≠ [] → ¬ (if isOpen then closing else opening) <+: v ++ t) :
    commentAfter opening closing isOpen 0 (x ++ t) = commentAfter opening closing isOpen 0 t := by
  induction x with
  | nil => rfl
  | cons c x ih =>
    have hstarts : Text.startsWith (if isOpen then closing else opening) (c :: (x ++ t)) = false :=
      Text.startsWith_eq_false_iff.2 (h [] (c :: x) rfl (by simp))
    rw [List.cons_append, commentAfter, hstarts, if_neg Bool.false_ne_true]
    exact ih fun u v hx => h (c :: u) v (by rw [hx, List.cons_append])

theorem commentAfter_commented (hopening : opening ≠ []) (hclosing : closing ≠ [])
    (hapart : Text.Apart closing closing) {c t : Text} (hc : ¬ closing <:+: c)
    (ht : ¬ opening <:+: t) :
    commentAfter opening closing false 0 (opening ++ (c ++ (closing ++ t))) = false := by
  have hinside : ∀ u v, c = u ++ v → v ≠ [] → ¬ closing <+: v ++ (closing ++ t) := by
    rintro u v rfl hv hstart
    exact hc ((hapart.prefix_append hv hstart).isInfix.trans (List.suffix_append u v).isInfix)
  have hbehind : ∀ u v, t = u ++ v → v ≠ [] → ¬ opening <+: v ++ [] := by
    rintro u v rfl - hstart
    rw [List.append_nil] at hstart
    exact ht (hstart.isInfix.trans (List.suffix_append u v).isInfix)
  have hend : commentAfter opening closing false 0 (t ++ []) = false := commentAfter_append hbehind
  rw [List.append_nil] at hend
  calc
    commentAfter opening closing false 0 (opening ++ (c ++ (closing ++ t))) =
        commentAfter opening closing true 0 (c ++ (closing ++ t)) :=
      commentAfter_mark (if_neg Bool.false_ne_true) hopening _
    _ = commentAfter opening closing true 0 (closing ++ t) := commentAfter_append hinside
    _ = commentAfter opening closing false 0 t :=
      commentAfter_mark (if_pos (rfl : true = true)) hclosing t
    _ = false := hend

end Comments

end Scan

end Echo

namespace Language

open Echo (Scan)
open Text (surplus)

private theorem opensBlockComment_of_isComment (l : Language) {t : Text}
    (h : l.echo.isComment t = true) : l.echo.opensBlockComment t = false := by
  have hapart : ∀ m ∈ l.echo.lineComments, ∀ b ∈ l.echo.blockComment, ¬ b.1 <+: m ∧ ¬ m <+: b.1 := by
    cases l <;> decide
  obtain ⟨m, hm, hmt⟩ := Echo.Rules.isComment_iff.1 h
  rw [← Bool.not_eq_true, Echo.Rules.opensBlockComment, Option.any_eq_true]
  rintro ⟨b, hb, hbt⟩
  obtain ⟨hbm, hmb⟩ := hapart m hm b hb
  rcases List.prefix_or_prefix_of_prefix (Text.startsWith_iff.1 hbt) hmt with hp | hp
  · exact hbm hp
  · exact hmb hp

private theorem stepPiece_of_isComment (l : Language) {p : Text}
    (h : l.echo.isComment (Text.trim p) = true) :
    (l.echo.stepPiece {} p).1 = ⟨surplus '\x7b' '\x7d' p, surplus '(' ')' p, .code⟩ := by
  rw [Echo.Rules.stepPiece_fst, Echo.Rules.step_fst_of_code rfl, Text.trim_splitReturn,
    l.opensBlockComment_of_isComment h, if_neg Bool.false_ne_true, if_pos h, Scan.countDepth_empty,
    Text.surplus_splitReturn (by decide) (by decide),
    Text.surplus_splitReturn (by decide) (by decide)]

/-- A line comment may take the place of another exactly if it has the same surplus of braces and the
same surplus of parentheses. -/
theorem interchangeable_comment_iff (l : Language) {p marker text : Text} (hp : '\n' ∉ p)
    (hcomment : l.echo.isComment (Text.trim p) = true) (hmarker : marker ∈ l.echo.lineComments)
    (htext : '\n' ∉ text) :
    l.Interchangeable p (marker ++ text) ↔
      surplus '\x7b' '\x7d' text = surplus '\x7b' '\x7d' p ∧ surplus '(' ')' text = surplus '(' ')' p := by
  have hfacts : ∀ m ∈ l.echo.lineComments, m ≠ [] ∧
      ∀ c ∈ m, Text.isBlank c = false ∧ c ≠ '\n' ∧ c ∉ Echo.brackets := by
    cases l <;> decide
  obtain ⟨hne, hchars⟩ := hfacts marker hmarker
  have hsolid : marker.IsSolid :=
    ⟨hne, fun c hc => (hchars c (List.mem_of_mem_head? hc)).1,
      fun c hc => (hchars c (List.mem_of_getLast? hc)).1⟩
  have htrim : Text.trim (marker ++ text) = marker ++ Text.trimEnd text :=
    Text.trim_append_of_solid hsolid [] text
  have hmarked : l.echo.isComment (Text.trim (marker ++ text)) = true := by
    rw [htrim]
    exact Echo.Rules.isComment_iff.2 ⟨marker, hmarker, List.prefix_append _ _⟩
  have hfeed : '\n' ∉ marker ++ text := by
    rw [List.mem_append, not_or]
    exact ⟨fun hmem => (hchars _ hmem).2.1 rfl, htext⟩
  have hnone : ∀ b ∈ Echo.brackets, b ∉ marker := fun b hb hmem => (hchars b hmem).2.2 hb
  have hbraces := Text.surplus_eq_zero (hnone '\x7b' (by decide)) (hnone '\x7d' (by decide))
  have hparens := Text.surplus_eq_zero (hnone '(' (by decide)) (hnone ')' (by decide))
  have hstate := l.stepPiece_of_isComment hmarked
  rw [Text.surplus_append, Text.surplus_append, hbraces, hparens, Int.zero_add, Int.zero_add] at hstate
  rw [interchangeable_iff hp hfeed (by rw [hstate]), hstate, l.stepPiece_of_isComment hcomment,
    Scan.mk.injEq]
  simp

/-- A parenthesis in a comment keeps the name behind it from being echoed. -/
theorem transform_minds_comment :
    javaScript.echo.isComment (Text.trim "// a".toList) = true ∧
      "//".toList ∈ javaScript.echo.lineComments ∧
      (javaScript.scanAt "// a\nx".toList 0).within = .code ∧
      Text.setLine "// a\nx".toList 0 ("//".toList ++ " (".toList) = "// (\nx".toList ∧
      javaScript.echo.transform "// a\nx".toList = "// a\nconsole.log(x);".toList ∧
      javaScript.echo.transform "// (\nx".toList = "// (\nx".toList ∧
      ¬ javaScript.Interchangeable "// a".toList ("//".toList ++ " (".toList) := by
  refine ⟨rfl, by decide, rfl, rfl, rfl, rfl, fun h => ?_⟩
  have hname := h "// a\nx".toList 0 rfl rfl 1 (by decide)
  revert hname
  decide

/-- Comments with an opening brace each, behind blanks the one and with a quote in it the other. -/
theorem interchangeable_comment_of_brace :
    python.Interchangeable "  # if (a) \x7b".toList ("#".toList ++ " \x7b\"\"\" ()".toList) :=
  (python.interchangeable_comment_iff (by decide) rfl (by decide) (by decide)).2 ⟨rfl, rfl⟩

private theorem stringAfter_splitReturn (l : Language) (p : Text) :
    Scan.stringAfter l.echo.blockStrings none 0 (Text.splitReturn p).1 =
      Scan.stringAfter l.echo.blockStrings none 0 p := by
  have hd := l.echo_isSettled.delimiters
  have hret : ∀ c ∈ (Text.splitReturn p).2, c ∉ Echo.quotes := by
    rcases Text.splitReturn_cases p with hret | hret <;> rw [hret] <;> decide
  have hnone : ∀ d ∈ (none : Option Text), d ∈ l.echo.blockStrings := by simp
  have hopened := Scan.mem_of_stringAfter hnone 0 (Text.splitReturn p).1
  have hend := Scan.stringAfter_append_left hd hopened hret []
  rw [List.append_nil] at hend
  conv_rhs => rw [← Text.splitReturn_append p]
  rw [Scan.stringAfter_append hd hnone (fun c hc => hret c (List.mem_of_mem_head? hc))
    (Nat.zero_le _), hend]
  rfl

private theorem stepPiece_of_not_opensBlockComment (l : Language) {p : Text}
    (h : l.echo.opensBlockComment (Text.trim p) = false) :
    (l.echo.stepPiece {} p).1 = {} ↔
      surplus '\x7b' '\x7d' p = 0 ∧ surplus '(' ')' p = 0 ∧
        (l.echo.isComment (Text.trim p) = true ∨
          Scan.stringAfter l.echo.blockStrings none 0 p = none) := by
  cases hcomment : l.echo.isComment (Text.trim p) with
  | true =>
    rw [l.stepPiece_of_isComment hcomment]
    simp [Scan.ext_iff]
  | false =>
    rw [Echo.Rules.stepPiece_fst, Echo.Rules.step_fst_of_code rfl, Text.trim_splitReturn, h,
      hcomment, if_neg Bool.false_ne_true, if_neg Bool.false_ne_true, Scan.countDepth_empty,
      Text.surplus_splitReturn (by decide) (by decide),
      Text.surplus_splitReturn (by decide) (by decide)]
    simp only [Scan.trackString, l.stringAfter_splitReturn p]
    cases Scan.stringAfter l.echo.blockStrings none 0 p <;> simp [Scan.ext_iff]

private theorem stepPiece_commented {l : Language} (hl : l = .javaScript ∨ l = .php) {p c : Text}
    (hopening : ¬ "/*".toList <:+: p) (hclosing : ¬ "*/".toList <:+: c) :
    (l.echo.stepPiece {} ("/*".toList ++ c ++ "*/".toList ++ p)).1 = {} := by
  have hblock : l.echo.blockComment = some ("/*".toList, "*/".toList) := by
    rcases hl with rfl | rfl <;> rfl
  have hsolid : Text.IsSolid ("/*".toList ++ c ++ "*/".toList) := by
    refine ⟨by simp, ?_, ?_⟩
    · rintro d ⟨⟩
      rfl
    · rw [List.getLast?_append_of_ne_nil _ (by decide)]
      rintro d ⟨⟩
      rfl
  have htrim : Text.trim ("/*".toList ++ c ++ "*/".toList ++ p) =
      "/*".toList ++ (c ++ ("*/".toList ++ Text.trimEnd p)) := by
    have h : Text.trim ("/*".toList ++ c ++ "*/".toList ++ p) =
        "/*".toList ++ c ++ "*/".toList ++ Text.trimEnd p := Text.trim_append_of_solid hsolid [] p
    simpa only [List.append_assoc] using h
  have hopens : l.echo.opensBlockComment ("/*".toList ++ (c ++ ("*/".toList ++ Text.trimEnd p))) =
      true := by
    rw [Echo.Rules.opensBlockComment, hblock, Option.any_some, Text.startsWith_iff]
    exact List.prefix_append _ _
  have hrest : ¬ "/*".toList <:+: Text.trimEnd p := fun h =>
    hopening (h.trans (Text.trimEnd_isPrefix p).isInfix)
  have hafter := Scan.commentAfter_commented (by decide) (by decide) (by decide) hclosing hrest
  rw [Echo.Rules.stepPiece_fst, Echo.Rules.step_fst_of_code rfl, Text.trim_splitReturn, htrim, hopens,
    if_pos rfl]
  simp only [Scan.trackComment, hblock, reduceCtorEq, decide_false]
  rw [hafter]
  rfl

/-- A block comment may be put in front of a line exactly if the line opens as much as it closes and
leaves no string open. -/
theorem interchangeable_commented_iff {l : Language} (hl : l = .javaScript ∨ l = .php) {p c : Text}
    (hp : '\n' ∉ p) (hc : '\n' ∉ c) (hopening : ¬ "/*".toList <:+: p)
    (hclosing : ¬ "*/".toList <:+: c) :
    l.Interchangeable p ("/*".toList ++ c ++ "*/".toList ++ p) ↔
      surplus '\x7b' '\x7d' p = 0 ∧ surplus '(' ')' p = 0 ∧
        (l.echo.isComment (Text.trim p) = true ∨
          Scan.stringAfter l.echo.blockStrings none 0 p = none) := by
  have hstate := stepPiece_commented hl hopening hclosing
  have hfeed : '\n' ∉ "/*".toList ++ c ++ "*/".toList ++ p := by
    simp only [List.mem_append, not_or]
    exact ⟨⟨⟨by decide, hc⟩, by decide⟩, hp⟩
  have hopens : l.echo.opensBlockComment (Text.trim p) = false := by
    rw [← Bool.not_eq_true]
    intro h
    have hstart : "/*".toList <+: Text.trim p := by
      rcases hl with rfl | rfl <;> exact Text.startsWith_iff.1 h
    obtain ⟨gap, -, htrim⟩ := Text.exists_indentation_append_trim p
    refine hopening (hstart.isInfix.trans ⟨Text.indentation p, gap, ?_⟩)
    rw [List.append_assoc, ← htrim]
  rw [interchangeable_iff hp hfeed (by rw [hstate]), hstate, eq_comm,
    l.stepPiece_of_not_opensBlockComment hopens]

/-- The brace behind a comment in front of a line is lost, and a line of the block is echoed. -/
theorem transform_loses_brace :
    ¬ "/*".toList <:+: "if (a) \x7b".toList ∧ ¬ "*/".toList <:+: "if (a) \x7b".toList ∧
      (javaScript.scanAt "if (a) \x7b\nb\n\x7d".toList 0).within = .code ∧
      Text.setLine "if (a) \x7b\nb\n\x7d".toList 0
        ("/*".toList ++ " c ".toList ++ "*/".toList ++ "if (a) \x7b".toList) =
        "/* c */if (a) \x7b\nb\n\x7d".toList ∧
      javaScript.echo.transform "if (a) \x7b\nb\n\x7d".toList = "if (a) \x7b\nb\n\x7d".toList ∧
      javaScript.echo.transform "/* c */if (a) \x7b\nb\n\x7d".toList =
        "/* c */if (a) \x7b\nconsole.log(b);\n\x7d".toList ∧
      ¬ javaScript.Interchangeable "if (a) \x7b".toList
        ("/*".toList ++ " c ".toList ++ "*/".toList ++ "if (a) \x7b".toList) := by
  refine ⟨by decide, by decide, rfl, rfl, rfl, rfl, fun h => ?_⟩
  have hname := h "if (a) \x7b\nb\n\x7d".toList 0 rfl rfl 1 (by decide)
  revert hname
  decide

/-- A line that closes a block and opens another, with a template literal that ends in it. -/
theorem interchangeable_commented_of_else :
    javaScript.Interchangeable "\x7d else \x7b f(`$x`)".toList
      ("/*".toList ++ "* / `(\x7b".toList ++ "*/".toList ++ "\x7d else \x7b f(`$x`)".toList) :=
  (interchangeable_commented_iff (Or.inl rfl) (by decide) (by decide) (by decide) (by decide)).2
    ⟨rfl, rfl, Or.inr rfl⟩

end Language

end Scratchpad
