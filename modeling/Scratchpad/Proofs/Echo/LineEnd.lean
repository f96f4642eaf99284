import Scratchpad.Proofs.Echo.Repetition

/-!
Line ends. A carriage return before a line feed belongs to the line end. Where every line feed of a
snippet gets one, the echoed snippet gets the same ones and no probe changes
(`Language.transform_withReturns`).
-/

set_option autoImplicit false
set_option relaxedAutoImplicit false

namespace Scratchpad

namespace Text

def withReturns (t : Text) : Text :=
  t.flatMap fun c => if c = '\n' then ['\r', '\n'] else [c]

/-- Pieces with a carriage return at the end of each but the last. -/
def addReturns : List Text → List Text
  | [] => []
  | [p] => [p]
  | p :: q :: ps => (p ++ ['\r']) :: addReturns (q :: ps)

private theorem withReturns_append (t u : Text) : withReturns
    (t ++ u) = withReturns t ++ withReturns u :=
  List.flatMap_append

private theorem withReturns_cons_lineFeed (t : Text) :
    withReturns ('\n' :: t) = '\r' :: '\n' :: withReturns t := rfl

private theorem withReturns_eq_self {t : Text} (h : '\n' ∉ t) : withReturns t = t := by
  induction t with
  | nil => rfl
  | cons c t ih =>
    rw [List.mem_cons, not_or] at h
    rw [withReturns, List.flatMap_cons, if_neg (Ne.symm h.1), ← withReturns, ih h.2,
      List.singleton_append]

private theorem withReturns_joinPieces {ps : List Text} (h : ∀ p ∈ ps, '\n' ∉ p) :
    withReturns (joinPieces ps) = joinPieces (addReturns ps) := by
  fun_induction addReturns ps with
  | case1 => rfl
  | case2 p =>
    rw [joinPieces, List.intercalate_singleton]
    exact withReturns_eq_self (h p (List.mem_singleton_self p))
  | case3 p q ps ih =>
    rw [List.forall_mem_cons] at h
    have hrest : addReturns (q :: ps) ≠ [] := by cases ps <;> simp [addReturns]
    obtain ⟨r, rs, hr⟩ := List.exists_cons_of_ne_nil hrest
    have hjoin := ih h.2
    rw [hr] at hjoin ⊢
    rw [joinPieces_cons_cons, joinPieces_cons_cons, withReturns_append, withReturns_eq_self h.1,
      withReturns_cons_lineFeed, hjoin, List.append_assoc, List.singleton_append]

private theorem addReturns_concat (ps : List Text) (p : Text) :
    addReturns (ps ++ [p]) = ps.map (· ++ ['\r']) ++ [p] := by
  induction ps with
  | nil => rfl
  | cons q ps ih =>
    cases ps with
    | nil => rfl
    | cons r ps => exact congrArg ((q ++ ['\r']) :: ·) ih

private theorem lineFeed_notMem_addReturns {ps : List Text} (h : ∀ p ∈ ps, '\n' ∉ p) :
    ∀ p ∈ addReturns ps, '\n' ∉ p := by
  rcases ps.eq_nil_or_concat' with rfl | ⟨qs, q, rfl⟩
  · exact h
  · rw [addReturns_concat]
    simp only [List.mem_append, List.mem_map, List.mem_singleton] at h ⊢
    rintro p (⟨r, hr, rfl⟩ | rfl)
    · simpa using h r (Or.inl hr)
    · exact h p (Or.inr rfl)

private theorem pieces_withReturns (t : Text) : pieces (withReturns t) = addReturns (pieces t) := by
  have hfeed : ∀ p ∈ pieces t, '\n' ∉ p := fun p hp => lineFeed_notMem_of_mem_pieces hp
  have hne : addReturns (pieces t) ≠ [] := by
    obtain ⟨ps, p, hp⟩ := (pieces t).eq_nil_or_concat'.resolve_left (pieces_ne_nil t)
    simp [hp, addReturns_concat]
  conv_lhs => rw [← joinPieces_pieces t, withReturns_joinPieces hfeed]
  exact pieces_joinPieces hne (lineFeed_notMem_addReturns hfeed)

private theorem lines_withReturns {t : Text} (h : '\r' ∉ t) : lines (withReturns t) = lines t := by
  obtain ⟨ps, p, hp⟩ := (pieces t).eq_nil_or_concat'.resolve_left (pieces_ne_nil t)
  have hnone : ∀ q ∈ ps, '\r' ∉ q := fun q hq =>
    notMem_of_mem_pieces h (hp ▸ List.mem_append_left _ hq)
  have hreturns := pieces_withReturns t
  rw [hp, addReturns_concat] at hreturns
  rw [lines_eq_of_pieces hreturns, lines_eq_of_pieces hp, List.map_map]
  congr 1
  refine List.map_congr_left fun q hq => ?_
  rw [Function.comp_apply, splitReturn_return, splitReturn_eq_self (hnone q hq)]

end Text

namespace Echo.Rules

variable {rules : Rules}

private theorem stepPiece_return {p : Text} (h : '\r' ∉ p) (s : Scan) :
    rules.stepPiece s (p ++ ['\r']) =
      ((rules.stepPiece s p).1, (rules.stepPiece s p).2 ++ ['\r']) := by
  unfold stepPiece
  rw [Text.splitReturn_return, Text.splitReturn_eq_self h]
  dsimp only
  rcases rules.step s p with ⟨s', _ | echo⟩
  · rfl
  · exact congrArg (fun t => (s', t ++ ['\r'])) (List.append_nil echo).symm

private theorem transformPieces_addReturns {ps : List Text} (h : ∀ p ∈ ps, '\r' ∉ p) (s : Scan) :
    rules.transformPieces s (Text.addReturns ps) =
      Text.addReturns (rules.transformPieces s ps) := by
  fun_induction Text.addReturns ps generalizing s with
  | case1 => rfl
  | case2 p => rfl
  | case3 p q ps ih =>
    rw [List.forall_mem_cons] at h
    rw [transformPieces, stepPiece_return h.1]
    dsimp only
    rw [ih h.2]
    rfl

end Echo.Rules

namespace Language

/-- Carriage returns before the line feeds of a snippet stand before the line feeds of its echo, and
no probe minds them. -/
theorem transform_withReturns (l : Language) {code : Text} (h : '\r' ∉ code) :
    l.echo.transform (Text.withReturns code) = Text.withReturns (l.echo.transform code) ∧
      l.probes (Text.withReturns code) = l.probes code := by
  have hnone : ∀ p ∈ Text.pieces code, '\r' ∉ p := fun p hp => Text.notMem_of_mem_pieces h hp
  have hfeed : ∀ p ∈ l.echo.transformPieces {} (Text.pieces code), '\n' ∉ p := fun p hp =>
    Text.lineFeed_notMem_of_mem_pieces (l.pieces_transform code ▸ hp)
  constructor
  · calc
      l.echo.transform (Text.withReturns code) =
          Text.joinPieces (l.echo.transformPieces {} (Text.addReturns (Text.pieces code))) := by
        rw [Echo.Rules.transform, Text.pieces_withReturns]
      _ = Text.joinPieces (Text.addReturns (l.echo.transformPieces {} (Text.pieces code))) := by
        rw [Echo.Rules.transformPieces_addReturns hnone]
      _ = Text.withReturns (l.echo.transform code) := by
        rw [← Text.withReturns_joinPieces hfeed, ← Echo.Rules.transform]
  · rw [probes, probes, Probe.extract, Probe.extract, Text.lines_withReturns h]

theorem transform_withReturns_of_literal :
    '\r' ∉ "const s = `\n//\n`;\n  s // $ s\n\nx".toList ∧
      javaScript.echo.transform (Text.withReturns "const s = `\n//\n`;\n  s // $ s\n\nx".toList) =
        "const s = `\r\n//\r\n`;\r\n  console.log(s); // $ s\r\n\r\nconsole.log(x);".toList ∧
      javaScript.probes (Text.withReturns "const s = `\n//\n`;\n  s // $ s\n\nx".toList) =
        [⟨4, ['s']⟩] := by
  have h : '\r' ∉ "const s = `\n//\n`;\n  s // $ s\n\nx".toList := by decide
  obtain ⟨hecho, hprobes⟩ := transform_withReturns javaScript h
  exact ⟨h, hecho.trans rfl, hprobes.trans rfl⟩

end Language

end Scratchpad
