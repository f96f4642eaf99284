import Scratchpad.Proofs.Json.Numeral

/-!
Prefix-free writers. What a prefix-free writer has written for a thing can be told from whatever
follows, so that a text made of such parts determines each of them. A writer with a reader is
prefix-free (`PrefixFree.of_read`), and so are its lists with a mark behind them that no item starts
with (`PrefixFree.flatMap`, `PrefixFree.separated`).
-/

set_option autoImplicit false
set_option relaxedAutoImplicit false

namespace Scratchpad.Text

/-- Nothing that is written is the beginning of what is written for another thing. -/
def PrefixFree {α : Type} (f : α → Text) : Prop :=
  ∀ ⦃a b : α⦄ ⦃x y : Text⦄, f a ++ x = f b ++ y → a = b

/-- The first of two texts does not begin the other, nor the second the first, unless both are the
same. -/
def Separate (v w : Text) : Prop :=
  ∀ ⦃x y : Text⦄, v ++ x = w ++ y → v = w

theorem Separate.refl (v : Text) : Separate v v :=
  fun _ _ _ => rfl

private theorem intercalate_cons (sep u : Text) (us : List Text) :
    List.intercalate sep (u :: us) = u ++ us.flatMap fun u => sep ++ u := by
  induction us generalizing u with
  | nil => simp [List.intercalate]
  | cons v us ih => rw [List.intercalate_cons_cons, ih, List.flatMap_cons, List.append_assoc, List.append_assoc]

namespace PrefixFree

variable {α β : Type} {f : α → Text} {g : β → Text}

theorem separate (hf : PrefixFree f) (a b : α) : Separate (f a) (f b) :=
  fun _ _ h => congrArg f (hf h)

theorem injective (hf : PrefixFree f) : Function.Injective f :=
  fun a b h => hf (x := []) (y := []) (by rw [h])

theorem of_read (read : Text → Option (α × Text)) (h : ∀ a x, read (f a ++ x) = some (a, x)) :
    PrefixFree f := by
  intro a b x y heq
  have hread := h a x
  rw [heq, h b y, Option.some.injEq, Prod.mk.injEq] at hread
  exact hread.1.symm

theorem comp (hf : PrefixFree f) {e : β → α} (he : Function.Injective e) :
    PrefixFree fun b => f (e b) :=
  fun _ _ _ _ h => he (hf h)

theorem prepend (hf : PrefixFree f) (p : Text) : PrefixFree fun a => p ++ f a := by
  intro a b x y h
  rw [List.append_assoc, List.append_assoc, List.append_cancel_left_eq] at h
  exact hf h

theorem append (hf : PrefixFree f) (p : Text) : PrefixFree fun a => f a ++ p := by
  intro a b x y h
  rw [List.append_assoc, List.append_assoc] at h
  exact hf h

theorem prod (hf : PrefixFree f) (hg : PrefixFree g) :
    PrefixFree fun a : α × β => f a.1 ++ g a.2 := by
  rintro ⟨a, b⟩ ⟨a', b'⟩ x y h
  rw [List.append_assoc, List.append_assoc] at h
  obtain rfl : a = a' := hf h
  rw [List.append_cancel_left_eq] at h
  obtain rfl : b = b' := hg h
  rfl

section Lists

variable {stop : Char} (hstop : ∀ a, ∃ c w, f a = c :: w ∧ c ≠ stop)

include hstop

private theorem stop_append_ne (a : α) (x y : Text) : [stop] ++ x ≠ f a ++ y := by
  intro h
  obtain ⟨c, w, hc, hcs⟩ := hstop a
  rw [hc] at h
  exact hcs (List.cons.inj h).1.symm

theorem flatMap (hf : PrefixFree f) : PrefixFree fun as : List α => as.flatMap f ++ [stop] := by
  intro as bs x y h
  simp only [List.append_assoc] at h
  -- One list cannot stop before the other, since the mark starts no item.
  induction as generalizing bs with
  | nil =>
    cases bs with
    | nil => rfl
    | cons b bs =>
      rw [List.flatMap_nil, List.nil_append, List.flatMap_cons, List.append_assoc] at h
      exact absurd h (stop_append_ne hstop b x _)
  | cons a as ih =>
    rw [List.flatMap_cons, List.append_assoc] at h
    cases bs with
    | nil => exact absurd h.symm (stop_append_ne hstop a y _)
    | cons b bs =>
      rw [List.flatMap_cons, List.append_assoc] at h
      obtain rfl : a = b := hf h
      rw [List.append_cancel_left_eq] at h
      rw [ih h]

theorem separated (hf : PrefixFree f) {d : Char} (hd : d ≠ stop) (sep : Text) :
    PrefixFree fun as : List α => List.intercalate (d :: sep) (as.map f) ++ [stop] := by
  -- Behind the first item, each item brings the separator in front of it along.
  have hrest : PrefixFree fun as : List α => as.flatMap (fun a => d :: sep ++ f a) ++ [stop] :=
    flatMap (fun a => ⟨d, sep ++ f a, rfl, hd⟩) (hf.prepend (d :: sep))
  intro as bs x y h
  dsimp only at h
  cases as with
  | nil =>
    cases bs with
    | nil => rfl
    | cons b bs =>
      rw [List.map_nil, List.intercalate_nil, List.nil_append, List.map_cons, intercalate_cons,
        List.append_assoc, List.append_assoc] at h
      exact absurd h (stop_append_ne hstop b x _)
  | cons a as =>
    rw [List.map_cons, intercalate_cons, List.flatMap_map, List.append_assoc,
      List.append_assoc] at h
    cases bs with
    | nil => exact absurd h.symm (stop_append_ne hstop a y _)
    | cons b bs =>
      rw [List.map_cons, intercalate_cons, List.flatMap_map, List.append_assoc,
        List.append_assoc] at h
      obtain rfl : a = b := hf h
      rw [List.append_cancel_left_eq, ← List.append_assoc, ← List.append_assoc] at h
      rw [hrest h]

end Lists

theorem toDigits {c : Char} (hc : c.isDigit = false) :
    PrefixFree fun n : Nat => Nat.toDigits 10 n ++ [c] := by
  refine of_read (fun t => (Json.Numeral.digits? t).map fun p =>
    (Nat.ofDigitChars 10 p.1 0, p.2.tail)) ?_
  intro n x
  have hdigits : Json.Numeral.digits? (Nat.toDigits 10 n ++ (c :: x)) =
      some (Nat.toDigits 10 n, c :: x) :=
    Json.Numeral.digits?_append (Json.Numeral.isDigits_toDigits n) (by simpa using hc)
  rw [List.append_assoc, List.singleton_append, hdigits, Option.map_some,
    Nat.ofDigitChars_ten_toDigits, List.tail_cons]

end PrefixFree

end Scratchpad.Text
