import Mathlib.Algebra.Group.Nat.Even
import Scratchpad.Proofs.Echo.Exchange

/-!
The lines of a template literal. A backtick ends the literal whether it is escaped or not, so that each
line with an odd number of backticks takes the scan out of the literal or back into it
(`stepPiece_literal`). A literal is kept, with all of its beginnings, exactly if none of its lines does
(`isKept_take_iff`).
-/

set_option autoImplicit false
set_option relaxedAutoImplicit false

namespace Scratchpad

namespace Echo

theorem Scan.stringAfter_single {c : Char} {opened : Option Text} (h : opened = none ∨ opened = some [c])
    (t : Text) :
    stringAfter [[c]] opened 0 t =
      if Even (t.count c) then opened else if opened = none then some [c] else none := by
  induction t generalizing opened with
  | nil => simp [stringAfter]
  | cons a t ih =>
    have hstarts : Text.startsWith [c] (a :: t) = decide (c = a) := by
      rw [Bool.eq_iff_iff, Text.startsWith_iff, decide_eq_true_eq]
      simp
    by_cases ha : c = a
    · subst ha
      by_cases heven : Even (t.count c) <;> rcases h with rfl | rfl
      · simp [stringAfter, Text.firstAt?, hstarts, ih (Or.inr rfl), Nat.even_add_one, heven]
      · simp [stringAfter, hstarts, ih (Or.inl rfl), Nat.even_add_one, heven]
      · simp [stringAfter, Text.firstAt?, hstarts, ih (Or.inr rfl), Nat.even_add_one, heven]
      · simp [stringAfter, hstarts, ih (Or.inl rfl), Nat.even_add_one, heven]
    · rcases h with rfl | rfl
      · simp [stringAfter, Text.firstAt?, hstarts, ha, ih (Or.inl rfl), Ne.symm ha]
      · simp [stringAfter, hstarts, ha, ih (Or.inr rfl), Ne.symm ha]

end Echo

namespace Language

open Echo (Scan)

/-- A declaration whose value is a template literal of some lines, with nothing before the first line
break and nothing behind the last. -/
def templateLiteral (ls : List Text) : List Text :=
  "const s = \x60".toList :: (ls ++ ["\x60;".toList])

/-- A text of which template literals are made: each backtick is escaped, nothing else is, and nothing
is substituted. -/
def IsTemplateText : Text → Bool
  | [] => true
  | '\\' :: t =>
    match t with
    | '\x60' :: t => IsTemplateText t
    | _ => false
  | '$' :: t => t.head? ≠ some '\x7b' && IsTemplateText t
  | c :: t => c ≠ '\x60' && IsTemplateText t

/-- The literal is not changed, and the lines behind it are echoed as if its lines were empty. -/
def IsKept (ls : List Text) : Prop :=
  ∀ behind : List Text, (∀ p ∈ behind, '\n' ∉ p) →
    Text.pieces (javaScript.echo.transform (Text.joinPieces (templateLiteral ls ++ behind))) =
      templateLiteral ls ++
        (Text.pieces (javaScript.echo.transform (Text.joinPieces
          (templateLiteral (ls.map fun _ => []) ++ behind)))).drop (templateLiteral ls).length

def inLiteral : Scan where
  within := .blockString ['\x60']

private theorem stepPiece_inLiteral (p : Text) :
    javaScript.echo.stepPiece inLiteral p =
      (if Even (p.count '\x60') then inLiteral else {}, p) := by
  refine Prod.ext ?_ (Echo.Rules.stepPiece_snd_of_not (by simp [inLiteral]) p)
  have hstring : Scan.stringAfter [['\x60']] (some ['\x60']) 0 (Text.splitReturn p).1 =
      if Even (p.count '\x60') then some ['\x60'] else none := by
    rw [← Text.count_splitReturn (by decide) p]
    exact Scan.stringAfter_single (Or.inr rfl) _
  have hstep : (javaScript.echo.step inLiteral (Text.splitReturn p).1).1 =
      inLiteral.trackString javaScript.echo (Text.splitReturn p).1 := rfl
  have hdelimiters : javaScript.echo.blockStrings = [['\x60']] := rfl
  rw [Echo.Rules.stepPiece_fst, hstep]
  simp only [Scan.trackString, inLiteral, hdelimiters, hstring]
  split_ifs <;> rfl

private theorem transformPieces_inLiteral {ls : List Text} (h : ∀ p ∈ ls, Even (p.count '\x60'))
    (ps : List Text) :
    javaScript.echo.transformPieces inLiteral (ls ++ ps) =
      ls ++ javaScript.echo.transformPieces inLiteral ps := by
  induction ls with
  | nil => rfl
  | cons p ls ih =>
    rw [List.forall_mem_cons] at h
    rw [List.cons_append, Echo.Rules.transformPieces, stepPiece_inLiteral, if_pos h.1]
    dsimp only
    rw [ih h.2, List.cons_append]

private theorem lineFeed_notMem_of_mem_templateLiteral {ls : List Text} (hls : ∀ p ∈ ls, '\n' ∉ p) :
    ∀ p ∈ templateLiteral ls, '\n' ∉ p := by
  simp only [templateLiteral, List.forall_mem_cons, List.forall_mem_append]
  exact ⟨by decide, hls, by decide, by simp⟩

private theorem pieces_transform_templateLiteral {ls : List Text} (hls : ∀ p ∈ ls, '\n' ∉ p)
    {behind : List Text} (hbehind : ∀ p ∈ behind, '\n' ∉ p) :
    Text.pieces (javaScript.echo.transform (Text.joinPieces (templateLiteral ls ++ behind))) =
      "const s = \x60".toList ::
        javaScript.echo.transformPieces inLiteral (ls ++ "\x60;".toList :: behind) := by
  have hfeed : ∀ p ∈ templateLiteral ls ++ behind, '\n' ∉ p :=
    List.forall_mem_append.2 ⟨lineFeed_notMem_of_mem_templateLiteral hls, hbehind⟩
  have hstart : javaScript.echo.stepPiece {} "const s = \x60".toList =
      (inLiteral, "const s = \x60".toList) := rfl
  rw [javaScript.pieces_transform, Text.pieces_joinPieces (by simp [templateLiteral]) hfeed,
    templateLiteral, List.cons_append, Echo.Rules.transformPieces, hstart, List.append_assoc]
  rfl

private theorem pieces_transform_of_even {ls : List Text} (hls : ∀ p ∈ ls, '\n' ∉ p)
    (heven : ∀ p ∈ ls, Even (p.count '\x60')) {behind : List Text} (hbehind : ∀ p ∈ behind, '\n' ∉ p) :
    Text.pieces (javaScript.echo.transform (Text.joinPieces (templateLiteral ls ++ behind))) =
      templateLiteral ls ++ javaScript.echo.transformPieces {} behind := by
  have hend : ¬ Even ("\x60;".toList.count '\x60') := by decide
  rw [pieces_transform_templateLiteral hls hbehind, transformPieces_inLiteral heven,
    Echo.Rules.transformPieces, stepPiece_inLiteral, if_neg hend, templateLiteral, List.cons_append,
    List.append_assoc]
  rfl

private theorem pieces_transform_blank (ls : List Text) {behind : List Text}
    (hbehind : ∀ p ∈ behind, '\n' ∉ p) :
    (Text.pieces (javaScript.echo.transform (Text.joinPieces
      (templateLiteral (ls.map fun _ => []) ++ behind)))).drop (templateLiteral ls).length =
      javaScript.echo.transformPieces {} behind := by
  have hlength : (templateLiteral ls).length = (templateLiteral (ls.map fun _ => [])).length := by
    simp [templateLiteral]
  rw [pieces_transform_of_even (by simp) (by simp) hbehind, hlength, List.drop_left]

private theorem isKept_of_even {ls : List Text} (hls : ∀ p ∈ ls, '\n' ∉ p)
    (heven : ∀ p ∈ ls, Even (p.count '\x60')) : IsKept ls := by
  intro behind hbehind
  rw [pieces_transform_blank ls hbehind, pieces_transform_of_even hls heven hbehind]

/-- The first line that does not stay in the literal is seen from a name behind the literal: it stands
in another literal, which starts with the last backtick. -/
theorem even_of_isKept_concat {ls : List Text} {p : Text} (hls : ∀ q ∈ ls ++ [p], '\n' ∉ q)
    (heven : ∀ q ∈ ls, Even (q.count '\x60')) (hkept : IsKept (ls ++ [p])) :
    Even (p.count '\x60') := by
  by_contra hodd
  have hname : ∀ q ∈ [['x']], '\n' ∉ q := by simp
  have hinside : javaScript.echo.transformPieces {} ["\x60;".toList, ['x']] =
      ["\x60;".toList, ['x']] := rfl
  have hechoed : javaScript.echo.transformPieces {} [['x']] = ["console.log(x);".toList] := rfl
  have hlast := hkept [['x']] hname
  rw [pieces_transform_blank _ hname, pieces_transform_templateLiteral hls hname, List.append_assoc,
    transformPieces_inLiteral heven, List.singleton_append, Echo.Rules.transformPieces,
    stepPiece_inLiteral, if_neg hodd] at hlast
  dsimp only at hlast
  rw [hinside, hechoed, templateLiteral, List.cons_append, List.append_assoc, List.append_assoc,
    List.cons_inj_right, List.append_cancel_left_eq] at hlast
  simp at hlast

/-- A literal is kept, with all of its beginnings, exactly if each of its lines has an even number of
backticks, whatever stands in front of them. -/
theorem isKept_take_iff {ls : List Text} (hls : ∀ p ∈ ls, '\n' ∉ p) :
    (∀ n, IsKept (ls.take n)) ↔ ∀ p ∈ ls, Even (p.count '\x60') := by
  constructor
  · intro hkept
    induction ls using List.reverseRecOn with
    | nil => simp
    | append_singleton ls p ih =>
      have hbefore : ∀ q ∈ ls, Even (q.count '\x60') := by
        refine ih (List.forall_mem_append.1 hls).1 fun n => ?_
        have hn := hkept (min n ls.length)
        rwa [List.take_append_of_le_length (Nat.min_le_right _ _), ← List.take_eq_take_min] at hn
      have hwhole := hkept (ls ++ [p]).length
      rw [List.take_length] at hwhole
      rw [List.forall_mem_append]
      exact ⟨hbefore, by simpa using even_of_isKept_concat hls hbefore hwhole⟩
  · intro heven n
    exact isKept_of_even (fun p hp => hls p (List.mem_of_mem_take hp))
      fun p hp => heven p (List.mem_of_mem_take hp)

/-- Two escaped backticks on a line, and two that are not. -/
theorem isKept_take_of_pairs :
    IsKept ["say \\\x60hi\\\x60".toList, [], "\x60x\x60 \x7b".toList] := by
  have hlines : ∀ p ∈ ["say \\\x60hi\\\x60".toList, [], "\x60x\x60 \x7b".toList], '\n' ∉ p := by
    decide
  exact (isKept_take_iff hlines).2 (by decide) 3

/-- One escaped backtick ends the literal, and the line behind it is echoed. -/
theorem transform_minds_escaped_backtick :
    (∀ p ∈ ["\\\x60".toList, "x".toList], IsTemplateText p = true ∧ '\n' ∉ p) ∧
      javaScript.echo.transform
        (Text.joinPieces (templateLiteral ["\\\x60".toList, "x".toList])) =
        Text.joinPieces (templateLiteral ["\\\x60".toList, "console.log(x);".toList]) ∧
      ¬ IsKept ["\\\x60".toList, "x".toList] := by
  refine ⟨by decide, rfl, fun h => ?_⟩
  have hkept := h [] (by simp)
  revert hkept
  decide

end Language

end Scratchpad
