import Mathlib.Data.List.Basic
import Scratchpad.Json.Quoted

/-!
The inside of a string as it is written. Whatever characters a text holds, the escapes for it are
spelled legally (`Quoted.wellFormed_encode`) and stand for the text (`Quoted.decode?_encode`).
-/

set_option autoImplicit false
set_option relaxedAutoImplicit false

namespace Scratchpad.Json.Quoted

private theorem hexValue?_hexDigit : ∀ n < 16, hexValue? (hexDigit n) = some n := by
  decide

private theorem unit?_control {n : Nat} (h : n < 0x20) :
    unit? '0' '0' (hexDigit (n / 16)) (hexDigit (n % 16)) = some n := by
  have hhigh := hexValue?_hexDigit (n / 16) (by omega)
  have hlow := hexValue?_hexDigit (n % 16) (by omega)
  have hzero : hexValue? '0' = some 0 := rfl
  simp only [unit?, hzero, hhigh, hlow, Option.bind_eq_bind, Option.bind_some, Option.pure_def,
    Option.some.injEq]
  omega

private theorem escape_cases (c : Char) :
    (∃ e, e ≠ 'u' ∧ shortEscape? e = some c ∧ escape c = ['\\', e]) ∨
      (c.toNat < 0x20 ∧ escape c =
        ['\\', 'u', '0', '0', hexDigit (c.toNat / 16), hexDigit (c.toNat % 16)]) ∨
      (c ≠ '"' ∧ c ≠ '\\' ∧ 0x20 ≤ c.toNat ∧ escape c = [c]) := by
  by_cases hquote : c = '"'
  · rw [hquote]
    exact Or.inl ⟨'"', by decide, rfl, rfl⟩
  by_cases hslash : c = '\\'
  · rw [hslash]
    exact Or.inl ⟨'\\', by decide, rfl, rfl⟩
  by_cases hb : c = '\x08'
  · rw [hb]
    exact Or.inl ⟨'b', by decide, rfl, rfl⟩
  by_cases hf : c = '\x0c'
  · rw [hf]
    exact Or.inl ⟨'f', by decide, rfl, rfl⟩
  by_cases hn : c = '\n'
  · rw [hn]
    exact Or.inl ⟨'n', by decide, rfl, rfl⟩
  by_cases hr : c = '\r'
  · rw [hr]
    exact Or.inl ⟨'r', by decide, rfl, rfl⟩
  by_cases ht : c = '\t'
  · rw [ht]
    exact Or.inl ⟨'t', by decide, rfl, rfl⟩
  have hescape : escape c = if c.toNat < 0x20 then
      ['\\', 'u', '0', '0', hexDigit (c.toNat / 16), hexDigit (c.toNat % 16)] else [c] := by
    rw [escape, if_neg hquote, if_neg hslash, if_neg hb, if_neg hf, if_neg hn, if_neg hr, if_neg ht]
  by_cases hcontrol : c.toNat < 0x20
  · exact Or.inr (Or.inl ⟨hcontrol, hescape.trans (if_pos hcontrol)⟩)
  · exact Or.inr (Or.inr ⟨hquote, hslash, Nat.le_of_not_lt hcontrol,
      hescape.trans (if_neg hcontrol)⟩)

private theorem wellFormed_escape_append (c : Char) (t : Text) :
    wellFormed (escape c ++ t) = wellFormed t := by
  rcases escape_cases c with ⟨e, he, hc, h⟩ | ⟨hcontrol, h⟩ | ⟨hquote, hslash, hcontrol, h⟩
  · simp [h, wellFormed, he, hc]
  · simp [h, wellFormed, unit?_control hcontrol]
  · simp [h, wellFormed, hquote, hslash, hcontrol]

theorem wellFormed_encode (t : Text) : wellFormed (encode t) = true := by
  induction t with
  | nil => rfl
  | cons c t ih => rw [encode, List.flatMap_cons, wellFormed_escape_append, ← encode, ih]

private theorem decode?_short {e c : Char} (he : e ≠ 'u') (h : shortEscape? e = some c) (t : Text) :
    decode? ('\\' :: e :: t) = (decode? t).map (c :: ·) := by
  have hread : decode? ('\\' :: e :: t) = (decode? t).bind fun r => some (c :: r) := by
    simp [decode?, he, h]
  rw [hread, Option.map_eq_bind]
  rfl

private theorem decode?_escape_append (c : Char) (t : Text) :
    decode? (escape c ++ t) = (decode? t).map (c :: ·) := by
  rcases escape_cases c with ⟨e, he, hc, h⟩ | ⟨hcontrol, h⟩ | ⟨hquote, hslash, hcontrol, h⟩
  · rw [h]
    exact decode?_short he hc t
  · have hlow : isLowSurrogate c.toNat = false := by
      simp only [isLowSurrogate, Bool.and_eq_false_iff, decide_eq_false_iff_not]
      omega
    have hhigh : isHighSurrogate c.toNat = false := by
      simp only [isHighSurrogate, Bool.and_eq_false_iff, decide_eq_false_iff_not]
      omega
    simp only [h, List.cons_append, List.nil_append, decode?, unit?_control hcontrol, hlow, hhigh,
      Option.bind_eq_bind, Option.bind_some, Char.ofNat_toNat]
    cases decode? t <;> rfl
  · simp [h, decode?, hquote, hslash, Nat.not_lt.2 hcontrol]

theorem decode?_encode (t : Text) : decode? (encode t) = some t := by
  induction t with
  | nil => rfl
  | cons c t ih =>
    rw [encode, List.flatMap_cons, decode?_escape_append, ← encode, ih, Option.map_some]

end Scratchpad.Json.Quoted
