import Scratchpad.Text.Basic

/-!
Order of version names. The decimal numbers in two names are compared first, one after the other;
the texts themselves decide between names with the same numbers. A number beyond 64 bits counts as
the largest that fits.
-/

set_option autoImplicit false
set_option relaxedAutoImplicit false

namespace Scratchpad.Version

/-- The largest number that counts as itself. -/
def maxNumber : Nat := Nat.pow 2 64 - 1

/-- The numbers in a name, after the digits `open` of a number that has begun. -/
def numbersFrom (digits : Text) : Text → List Nat
  | [] => if digits.isEmpty then [] else [close digits]
  | c :: t =>
    if c.isDigit then numbersFrom (c :: digits) t
    else if digits.isEmpty then numbersFrom [] t
    else close digits :: numbersFrom [] t
where
  /-- The number with these digits, the last one first. -/
  close (digits : Text) : Nat :=
    min (Nat.ofDigitChars 10 digits.reverse 0) maxNumber

def numbers (name : Text) : List Nat :=
  numbersFrom [] name

def order (a b : Text) : Ordering :=
  (compare (numbers a) (numbers b)).then (compare a b)

def newestFirst (names : List Text) : List Text :=
  names.mergeSort fun a b => (order b a).isLE

end Scratchpad.Version
