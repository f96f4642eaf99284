import Mathlib.Data.List.Forall2
import Scratchpad.Text.Line

/-!
Pieces and lines. No piece holds a line feed, pieces without line feeds can be put together and cut
apart again (`pieces_joinPieces`), and a carriage return is taken off a piece or there is none
(`splitReturn_cases`).
-/

set_option autoImplicit false
set_option relaxedAutoImplicit false

namespace Scratchpad.Text

theorem pieces_ne_nil (t : Text) : pieces t ≠ [] :=
  List.splitOn_ne_nil _ _

theorem pieces_joinPieces {ps : List Text} (hne : ps ≠ []) (h : ∀ p ∈ ps, '\n' ∉ p) :
    pieces (joinPieces ps) = ps :=
  List.splitOn_intercalate '\n' h hne

theorem joinPieces_pieces (t : Text) : joinPieces (pieces t) = t :=
  List.intercalate_splitOn '\n'

theorem joinPieces_cons_cons (p q : Text) (ps : List Text) :
    joinPieces (p :: q :: ps) = p ++ '\n' :: joinPieces (q :: ps) := by
  rw [joinPieces, List.intercalate_cons_cons, List.append_assoc, List.singleton_append, joinPieces]

private theorem isInfix_joinPieces {p : Text} {ps : List Text} (h : p ∈ ps) : p <:+: joinPieces ps
    := by
  induction ps with
  | nil => cases h
  | cons q ps ih =>
    cases ps with
    | nil =>
      obtain rfl := List.mem_singleton.1 h
      have hone : joinPieces [p] = p := List.intercalate_singleton
      exact hone.symm ▸ List.infix_rfl
    | cons r ps =>
      rw [joinPieces_cons_cons]
      rcases List.mem_cons.1 h with rfl | h
      · exact (List.prefix_append ..).isInfix
      · exact ((ih h).trans (List.suffix_cons ..).isInfix).trans (List.suffix_append ..).isInfix

private theorem isInfix_of_mem_pieces {t p : Text} (h : p ∈ pieces t) : p <:+: t :=
  joinPieces_pieces t ▸ isInfix_joinPieces h

theorem notMem_of_mem_pieces {c : Char} {t p : Text} (h : c ∉ t) (hp : p ∈ pieces t) : c ∉ p :=
  fun hc => h ((isInfix_of_mem_pieces hp).subset hc)

theorem lineFeed_notMem_of_mem_pieces {t p : Text} (h : p ∈ pieces t) : '\n' ∉ p := by
  unfold pieces at h
  induction t generalizing p with
  | nil =>
    rw [List.splitOn_nil, List.mem_singleton] at h
    simp [h]
  | cons c t ih =>
    rw [List.splitOn_cons_eq_if_modifyHead] at h
    split at h
    · rcases List.mem_cons.1 h with rfl | h
      · simp
      · exact ih h
    · next hc =>
      obtain ⟨q, qs, hq⟩ := List.exists_cons_of_ne_nil (List.splitOn_ne_nil '\n' t)
      rw [hq, List.modifyHead_cons] at h
      rcases List.mem_cons.1 h with rfl | h
      · have hcn : c ≠ '\n' := by simpa using hc
        rw [List.mem_cons, not_or]
        exact ⟨hcn.symm, ih (hq ▸ List.mem_cons_self ..)⟩
      · exact ih (hq ▸ List.mem_cons_of_mem _ h)

private theorem pieces_append_lineFeed (x y : Text) : pieces (x ++ '\n' :: y) = pieces x ++ pieces y
    :=
  List.splitOnP_append_cons x y (beq_self_eq_true '\n')

theorem exists_pieces_eq_cons {w : Text} (hw : '\n' ∉ w) (y : Text) :
    ∃ p ps, pieces (w ++ y) = p :: ps ∧ w <+: p := by
  induction w with
  | nil =>
    obtain ⟨p, ps, hp⟩ := List.exists_cons_of_ne_nil (pieces_ne_nil y)
    exact ⟨p, ps, hp, List.nil_prefix⟩
  | cons c w ih =>
    rw [List.mem_cons, not_or] at hw
    obtain ⟨p, ps, hp, hpw⟩ := ih hw.2
    refine ⟨c :: p, ps, ?_, List.cons_prefix_cons.2 ⟨rfl, hpw⟩⟩
    have hc : (c == '\n') = false := by simpa using Ne.symm hw.1
    unfold pieces at hp ⊢
    rw [List.cons_append, List.splitOn_cons_eq_if_modifyHead, hc, hp, if_neg Bool.false_ne_true,
      List.modifyHead_cons]

theorem exists_piece_of_isInfix {w t : Text} (hw : '\n' ∉ w) (h : ('\n' :: w) <:+: t) :
    ∃ p ∈ pieces t, w <+: p := by
  obtain ⟨x, y, rfl⟩ := h
  obtain ⟨p, ps, hp, hpw⟩ := exists_pieces_eq_cons hw y
  refine ⟨p, ?_, hpw⟩
  have ht : x ++ '\n' :: w ++ y = x ++ '\n' :: (w ++ y) := by simp
  rw [ht, pieces_append_lineFeed, hp]
  exact List.mem_append_right _ (List.mem_cons_self ..)

theorem splitReturn_cases (p : Text) : (splitReturn p).2 = ['\r'] ∨ (splitReturn p).2 = [] := by
  unfold splitReturn
  split
  · exact Or.inl rfl
  · exact Or.inr rfl

theorem count_splitReturn {c : Char} (hc : c ≠ '\r') (p : Text) :
    (splitReturn p).1.count c = p.count c := by
  have hret : (splitReturn p).2.count c = 0 := by
    refine List.count_eq_zero.2 ?_
    rcases splitReturn_cases p with hret | hret <;> rw [hret] <;> simp [hc]
  conv_rhs => rw [← splitReturn_append p, List.count_append, hret, Nat.add_zero]

theorem splitReturn_return (p : Text) : splitReturn (p ++ ['\r']) = (p, ['\r']) := by
  simp [splitReturn]

theorem splitReturn_eq_self {p : Text} (h : '\r' ∉ p) : splitReturn p = (p, []) :=
  if_neg fun hlast => h (List.mem_of_getLast? hlast)

theorem splitReturn_append_of_ne {x ret : Text} (hret : ret = ['\r'] ∨ ret = [])
    (hx : x.getLast? ≠ some '\r') : splitReturn (x ++ ret) = (x, ret) := by
  rcases hret with rfl | rfl
  · simp [splitReturn]
  · rw [List.append_nil, splitReturn, if_neg hx]

theorem lines_eq_of_pieces {t p : Text} {ps : List Text} (h : pieces t = ps ++ [p]) :
    lines t = ps.map (fun p => (splitReturn p).1) ++ if p = [] then [] else [p] := by
  simp only [lines, h, List.dropLast_concat, List.getLast?_concat, Option.toList_some]
  by_cases hp : p = [] <;> simp [hp]

end Scratchpad.Text
