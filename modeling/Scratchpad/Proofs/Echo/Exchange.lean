import Scratchpad.Proofs.Echo.Wrapping

/-!
Exchanging a line of a snippet. Behind a line that starts in code, the depths are those in front of it
and what the line adds to them (`Rules.stepPiece_of_code`), so that the scan of a line can be read off
from the scan of the line alone. Two lines are interchangeable exactly if these are the same
(`Language.interchangeable_iff`): other lines that differ in it are told apart by some snippet.
-/

set_option autoImplicit false
set_option relaxedAutoImplicit false

namespace Scratchpad

namespace Text

def setLine (code : Text) (k : Nat) (line : Text) : Text :=
  joinPieces ((pieces code).set k line)

private theorem pieces_setLine (code : Text) (k : Nat) {line : Text} (h : '\n' ∉ line) :
    pieces (setLine code k line) = (pieces code).set k line := by
  refine pieces_joinPieces (by simpa using pieces_ne_nil code) fun p hp => ?_
  rcases List.mem_or_eq_of_mem_set hp with hp | rfl
  · exact lineFeed_notMem_of_mem_pieces hp
  · exact h

end Text

namespace Echo

attribute [ext] Scan

/-- Two states put together: their depths add up, and the second says what is open. -/
def Scan.plus (s t : Scan) : Scan :=
  { braces := s.braces + t.braces, parens := s.parens + t.parens, within := t.within }

namespace Rules

variable {rules : Rules}

def scanOver (rules : Rules) (s : Scan) (ps : List Text) : Scan :=
  ps.foldl (fun s p => (rules.stepPiece s p).1) s

private theorem length_transformPieces (s : Scan) (ps : List Text) :
    (rules.transformPieces s ps).length = ps.length := by
  induction ps generalizing s with
  | nil => rfl
  | cons p ps ih => rw [transformPieces, List.length_cons, List.length_cons, ih]

private theorem transformPieces_append (s : Scan) (ps qs : List Text) :
    rules.transformPieces s (ps ++ qs) =
      rules.transformPieces s ps ++ rules.transformPieces (rules.scanOver s ps) qs := by
  induction ps generalizing s with
  | nil => rfl
  | cons p ps ih =>
    rw [List.cons_append, transformPieces, transformPieces, List.cons_append]
    dsimp only
    rw [ih]
    rfl

def opensBlockComment (rules : Rules) (t : Text) : Bool :=
  rules.blockComment.any fun b => Text.startsWith b.1 t

theorem step_fst_of_code {s : Scan} (hs : s.within = .code) (line : Text) :
    (rules.step s line).1 =
      if rules.opensBlockComment (Text.trim line) then s.trackComment rules (Text.trim line)
      else if rules.isComment (Text.trim line) then s.countDepth line
      else (s.countDepth line).trackString rules line := by
  unfold step
  cases hb : rules.blockComment with
  | none =>
    simp only [hs, opensBlockComment, hb, Option.any_none]
    split_ifs <;> rfl
  | some b =>
    simp only [hs, opensBlockComment, hb, Option.any_some]
    split_ifs <;> rfl

private theorem trackComment_of_code {s : Scan} (hs : s.within = .code) (t : Text) :
    s.trackComment rules t = s.plus (Scan.trackComment {} rules t) := by
  obtain ⟨braces, parens, within⟩ := s
  obtain rfl : within = .code := hs
  unfold Scan.trackComment
  cases rules.blockComment <;> simp [Scan.plus]

private theorem countDepth_of_code {s : Scan} (hs : s.within = .code) (line : Text) :
    s.countDepth line = s.plus (Scan.countDepth {} line) := by
  simp only [Scan.countDepth, Scan.plus, Scan.mk.injEq, hs, and_true]
  omega

private theorem trackString_plus (s t : Scan) (line : Text) :
    (s.plus t).trackString rules line = s.plus (t.trackString rules line) :=
  rfl

private theorem step_of_code {s : Scan} (hs : s.within = .code) (line : Text) :
    (rules.step s line).1 = s.plus (rules.step {} line).1 := by
  rw [step_fst_of_code hs, step_fst_of_code rfl]
  split_ifs
  · exact trackComment_of_code hs _
  · exact countDepth_of_code hs line
  · rw [countDepth_of_code hs, trackString_plus]

theorem stepPiece_fst (s : Scan) (p : Text) :
    (rules.stepPiece s p).1 = (rules.step s (Text.splitReturn p).1).1 := by
  unfold stepPiece
  dsimp only
  split <;> simp only [*]

private theorem stepPiece_of_code {s : Scan} (hs : s.within = .code) (p : Text) :
    (rules.stepPiece s p).1 = s.plus (rules.stepPiece {} p).1 := by
  rw [stepPiece_fst, stepPiece_fst, step_of_code hs]

theorem stepPiece_snd_of_not {s : Scan} (h : ¬ (s.within = .code ∧ s.atTop = true)) (p : Text) :
    (rules.stepPiece s p).2 = p := by
  have hnone : (rules.step s (Text.splitReturn p).1).2 = none := by
    unfold step
    dsimp only
    split
    · rfl
    · rfl
    · next hcode =>
      have htop : s.atTop = false := by simpa [hcode] using h
      split_ifs with hopens hcomment hblank
      · rfl
      · rfl
      · rfl
      · simp [htop] at hblank
  unfold stepPiece
  dsimp only
  split
  · next s' echo hstep =>
    rw [hstep] at hnone
    cases hnone
  · rfl

private theorem step_snd_of_top {s : Scan} (hcode : s.within = .code) (htop : s.atTop = true)
    {line : Text}
    (hne : Text.trim line ≠ []) (hopens : rules.opensBlockComment (Text.trim line) = false)
    (hcomment : rules.isComment (Text.trim line) = false)
    (hstring : Scan.stringAfter rules.blockStrings none 0 line = none) :
    (rules.step s line).2 = rules.echoLine? line := by
  have hwithin : ((s.countDepth line).trackString rules line).within = .code := by
    simp [Scan.trackString, Scan.countDepth, hcode, hstring]
  unfold opensBlockComment at hopens
  unfold step
  cases hb : rules.blockComment with
  | none => simp [hcode, htop, hne, hcomment, hwithin]
  | some b =>
    rw [hb, Option.any_some] at hopens
    simp [hcode, htop, hne, hcomment, hwithin, hopens]

end Rules

/-- A line that starts with a closing brace and has these surpluses. -/
def bracketLine (braces parens : Int) : Text :=
  '\x7d' :: (List.replicate (braces + 1).toNat '\x7b' ++ List.replicate (-(braces + 1)).toNat '\x7d' ++
    (List.replicate parens.toNat '(' ++ List.replicate (-parens).toNat ')'))

private theorem mem_bracketLine {braces parens : Int} {c : Char} (h : c ∈ bracketLine braces parens)
    : c ∈ brackets := by
  simp only [bracketLine, List.mem_cons, List.mem_append, List.mem_replicate] at h
  simp only [brackets, List.mem_cons]
  tauto

private theorem countDepth_bracketLine (braces parens : Int) :
    Scan.countDepth {} (bracketLine braces parens) = ⟨braces, parens, .code⟩ := by
  simp [Scan.countDepth, bracketLine, List.count_replicate]
  omega

end Echo

namespace Language

open Echo (Scan bracketLine mem_bracketLine countDepth_bracketLine)

def scanAt (l : Language) (code : Text) (k : Nat) : Scan :=
  l.echo.scanOver {} ((Text.pieces code).take k)

/-- Put in the place of the first, which starts in code, the second line leaves the echo of every
other line as it is. -/
def Interchangeable (l : Language) (p q : Text) : Prop :=
  ∀ (code : Text) (k : Nat), (Text.pieces code)[k]? = some p → (l.scanAt code k).within = .code →
    ∀ i, i ≠ k → (Text.pieces (l.echo.transform (Text.setLine code k q)))[i]? =
      (Text.pieces (l.echo.transform code))[i]?

private theorem pieces_transform_around (l : Language) {code p : Text} {before after : List Text}
    (h : Text.pieces code = before ++ p :: after) :
    Text.pieces (l.echo.transform code) = l.echo.transformPieces {} before ++
      (l.echo.stepPiece (l.echo.scanOver {} before) p).2 ::
        l.echo.transformPieces (l.echo.stepPiece (l.echo.scanOver {} before) p).1 after := by
  rw [l.pieces_transform, h, Echo.Rules.transformPieces_append]
  rfl

private theorem getElem?_append_cons_congr {α : Type} (xs : List α) (a b : α) (ys : List α)
    {i : Nat} (hi : i ≠ xs.length) : (xs ++ a :: ys)[i]? = (xs ++ b :: ys)[i]? := by
  rcases Nat.lt_or_gt_of_ne hi with hlt | hgt
  · rw [List.getElem?_append_left hlt, List.getElem?_append_left hlt]
  · obtain ⟨j, rfl⟩ := Nat.exists_eq_add_of_lt hgt
    simp [List.getElem?_append_right, Nat.add_assoc]

private theorem interchangeable_of_stepPiece_eq {l : Language} {p q : Text} (hq : '\n' ∉ q)
    (h : (l.echo.stepPiece {} q).1 = (l.echo.stepPiece {} p).1) : l.Interchangeable p q := by
  intro code k hk hcode i hi
  obtain ⟨hlt, hget⟩ := List.getElem?_eq_some_iff.1 hk
  have hpieces : Text.pieces code =
      (Text.pieces code).take k ++ p :: (Text.pieces code).drop (k + 1) := by
    rw [← hget, List.getElem_cons_drop, List.take_append_drop]
  have hset : Text.pieces (Text.setLine code k q) =
      (Text.pieces code).take k ++ q :: (Text.pieces code).drop (k + 1) := by
    rw [Text.pieces_setLine code k hq, List.set_eq_take_append_cons_drop, if_pos hlt]
  have hstate : (l.echo.stepPiece (l.scanAt code k) q).1 =
      (l.echo.stepPiece (l.scanAt code k) p).1 := by
    rw [Echo.Rules.stepPiece_of_code hcode, Echo.Rules.stepPiece_of_code hcode, h]
  have hlength : i ≠ (l.echo.transformPieces {} ((Text.pieces code).take k)).length := by
    rwa [Echo.Rules.length_transformPieces, List.length_take_of_le hlt.le]
  rw [scanAt] at hstate
  rw [l.pieces_transform_around hpieces, l.pieces_transform_around hset, hstate]
  exact getElem?_append_cons_congr _ _ _ _ hlength

private theorem stepPiece_bracketLine (l : Language) (braces parens : Int) :
    (l.echo.stepPiece {} (bracketLine braces parens)).1 = ⟨braces, parens, .code⟩ := by
  have hmem : ∀ c ∈ bracketLine braces parens, c ∈ Echo.brackets := fun _ => mem_bracketLine
  have hfacts : ∀ c ∈ Echo.brackets, c ≠ '\r' ∧ Text.isBlank c = false ∧ c ∉ Echo.quotes := by
    decide
  have hlast : (bracketLine braces parens).getLast? ≠ some '\r' := fun h =>
    (hfacts _ (hmem _ (List.mem_of_getLast? h))).1 rfl
  have hsolid : (bracketLine braces parens).IsSolid :=
    ⟨by simp [bracketLine], fun c hc => (hfacts c (hmem c (List.mem_of_mem_head? hc))).2.1,
      fun c hc => (hfacts c (hmem c (List.mem_of_getLast? hc))).2.1⟩
  have hopens : l.echo.opensBlockComment (bracketLine braces parens) = false := by cases l <;> rfl
  have hcomment : l.echo.isComment (bracketLine braces parens) = false := by
    have hforeign : l.echo.Foreign '\x7d' := l.foreign_of_ne (by decide) (by decide)
    exact (Echo.Rules.isComment_append_cons hforeign [] _).trans l.echo_hasMarkers.isComment_nil
  have hstring : Scan.stringAfter l.echo.blockStrings none 0 (bracketLine braces parens) = none := by
    have hnone : ∀ d ∈ (none : Option Text), d ∈ l.echo.blockStrings := by simp
    have hquotes := Scan.stringAfter_append_left l.echo_isSettled.delimiters hnone
      (fun c hc => (hfacts c (hmem c hc)).2.2) []
    rwa [List.append_nil] at hquotes
  rw [Echo.Rules.stepPiece_fst, Text.splitReturn, if_neg hlast, Echo.Rules.step_fst_of_code rfl,
    hsolid.trim_eq, hopens, hcomment]
  simp [Scan.trackString, countDepth_bracketLine, hstring]

private theorem stepPiece_name_eq_iff (l : Language) (s : Scan) :
    (l.echo.stepPiece s ['x']).2 = ['x'] ↔ ¬ (s.within = .code ∧ s.atTop = true) := by
  refine ⟨?_, fun h => Echo.Rules.stepPiece_snd_of_not h ['x']⟩
  rintro hsame ⟨hcode, htop⟩
  obtain ⟨echo, hecho, hne⟩ : ∃ echo, l.echo.echoLine? ['x'] = some echo ∧ echo ≠ ['x'] := by
    cases l <;> exact ⟨_, rfl, by decide⟩
  have hstep : (l.echo.step s ['x']).2 = some echo := by
    rw [← hecho]
    cases l <;> exact Echo.Rules.step_snd_of_top hcode htop (by decide) rfl rfl rfl
  have hsplit : Text.splitReturn ['x'] = (['x'], []) := rfl
  unfold Echo.Rules.stepPiece at hsame
  rw [hsplit] at hsame
  cases h : l.echo.step s ['x'] with
  | mk s' echo? =>
    rw [h] at hstep
    obtain rfl : echo? = some echo := hstep
    simp only [h, List.append_nil] at hsame
    exact hne hsame

private theorem Interchangeable.isCode_iff {l : Language} {p q : Text} (hp : '\n' ∉ p)
    (hq : '\n' ∉ q) (h : l.Interchangeable p q) {s : Scan} (hs : s.within = .code) :
    (l.echo.stepPiece s q).1.within = .code ∧ (l.echo.stepPiece s q).1.atTop = true ↔
      (l.echo.stepPiece s p).1.within = .code ∧ (l.echo.stepPiece s p).1.atTop = true := by
  let before := bracketLine s.braces s.parens
  have hfeed : '\n' ∉ before := fun hmem => by
    have hbracket := mem_bracketLine hmem
    revert hbracket
    decide
  have hpieces : ∀ {r : Text}, '\n' ∉ r →
      Text.pieces (Text.joinPieces [before, r, ['x']]) =
        [before] ++ r :: [['x']] := fun hr =>
    Text.pieces_joinPieces (by simp) (by simp [hfeed, hr])
  have hstate : l.echo.scanOver {} [before] = s := by
    rw [← show Scan.mk s.braces s.parens .code = s by rw [← hs]]
    exact l.stepPiece_bracketLine s.braces s.parens
  have hset : Text.setLine (Text.joinPieces [before, p, ['x']]) 1 q =
      Text.joinPieces [before, q, ['x']] := by
    rw [Text.setLine, hpieces hp]
    rfl
  have hname : ∀ {r : Text}, '\n' ∉ r →
      (Text.pieces (l.echo.transform (Text.joinPieces [before, r, ['x']])))[2]? =
        some (l.echo.stepPiece (l.echo.stepPiece s r).1 ['x']).2 := fun hr => by
    rw [l.pieces_transform_around (hpieces hr), hstate]
    rfl
  have hscan : l.scanAt (Text.joinPieces [before, p, ['x']]) 1 = s := by
    rw [scanAt, hpieces hp]
    exact hstate
  have hsame := h (Text.joinPieces [before, p, ['x']]) 1
    (by rw [hpieces hp]; rfl) (by rw [hscan, hs]) 2 (by decide)
  rw [hset, hname hq, hname hp, Option.some.injEq] at hsame
  have hiff := l.stepPiece_name_eq_iff (l.echo.stepPiece s q).1
  rw [hsame, l.stepPiece_name_eq_iff] at hiff
  exact (not_iff_not.1 hiff).symm

private theorem atTop_plus {s t : Scan} :
    (s.plus t).atTop = true ↔ s.braces + t.braces ≤ 0 ∧ s.parens + t.parens ≤ 0 := by
  rw [Scan.atTop, Bool.and_eq_true, decide_eq_true_eq, decide_eq_true_eq]
  rfl

/-- Two lines are interchangeable exactly if the scan goes on in the same state behind them; one of
them is to leave it in code. -/
theorem interchangeable_iff {l : Language} {p q : Text} (hp : '\n' ∉ p) (hq : '\n' ∉ q)
    (hcode : (l.echo.stepPiece {} q).1.within = .code) :
    l.Interchangeable p q ↔ (l.echo.stepPiece {} q).1 = (l.echo.stepPiece {} p).1 := by
  refine ⟨fun h => ?_, interchangeable_of_stepPiece_eq hq⟩
  have hiff (i j : Int) :
      (l.echo.stepPiece {} q).1.within = .code ∧
          i + (l.echo.stepPiece {} q).1.braces ≤ 0 ∧ j + (l.echo.stepPiece {} q).1.parens ≤ 0 ↔
        (l.echo.stepPiece {} p).1.within = .code ∧
          i + (l.echo.stepPiece {} p).1.braces ≤ 0 ∧ j + (l.echo.stepPiece {} p).1.parens ≤ 0 := by
    have hij := h.isCode_iff hp hq (s := ⟨i, j, .code⟩) rfl
    rwa [Echo.Rules.stepPiece_of_code (s := ⟨i, j, .code⟩) rfl q, atTop_plus,
      Echo.Rules.stepPiece_of_code (s := ⟨i, j, .code⟩) rfl p, atTop_plus] at hij
  -- bring first the one and then the other line to depth zero
  obtain ⟨hwithin, hbraces, hparens⟩ := (hiff (-(l.echo.stepPiece {} q).1.braces)
    (-(l.echo.stepPiece {} q).1.parens)).1 ⟨hcode, by omega, by omega⟩
  obtain ⟨-, hbraces', hparens'⟩ := (hiff (-(l.echo.stepPiece {} p).1.braces)
    (-(l.echo.stepPiece {} p).1.parens)).2 ⟨hwithin, by omega, by omega⟩
  ext
  · omega
  · omega
  · rw [hcode, hwithin]

end Language

end Scratchpad
