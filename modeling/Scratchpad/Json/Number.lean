import Scratchpad.Json.Binary64

/-!
Numbers. A numeral is the written form of a number in its parts. A numeral without fraction and
exponent is an integer if it fits in 64 bits, unsigned or signed; every other numeral, minus zero
included, is a binary floating-point number, and one that is too large is refused.
-/

set_option autoImplicit false
set_option relaxedAutoImplicit false

namespace Scratchpad.Json

/-- A number as a value: an integer of at most 64 bits or a floating-point number. -/
inductive Number where
  /-- An integer from minus two to the 63 up to two to the 64 less one. -/
  | int (n : Int)
  | real (x : Binary64)
  deriving DecidableEq, Repr

structure Numeral where
  negative : Bool
  /-- The digits before the point, at least one and without a needless zero in front. -/
  whole : Text
  /-- The digits after the point, at least one, if there is a point. -/
  fraction : Option Text
  /-- Whether the exponent is negative, and its digits, at least one, if there is an exponent. -/
  exponent : Option (Bool × Text)
  deriving DecidableEq

namespace Numeral

def digits? (t : Text) : Option (Text × Text) :=
  let ds := t.takeWhile Char.isDigit
  if ds.isEmpty then none else some (ds, t.dropWhile Char.isDigit)

def fraction? : Text → Option (Option Text × Text)
  | '.' :: t => (digits? t).map fun p => (some p.1, p.2)
  | t => some (none, t)

def exponent? : Text → Option (Option (Bool × Text) × Text)
  | c :: t =>
    if c = 'e' ∨ c = 'E' then
      match t with
      | '-' :: t => (digits? t).map fun p => (some (true, p.1), p.2)
      | '+' :: t => (digits? t).map fun p => (some (false, p.1), p.2)
      | t => (digits? t).map fun p => (some (false, p.1), p.2)
    else some (none, c :: t)
  | [] => some (none, [])

def read? (t : Text) : Option Numeral := do
  let (negative, t) := match t with
    | '-' :: t => (true, t)
    | t => (false, t)
  let (whole, t) ← digits? t
  if 1 < whole.length ∧ whole.head? = some '0' then none
  let (fraction, t) ← fraction? t
  let (exponent, t) ← exponent? t
  if t.isEmpty then return ⟨negative, whole, fraction, exponent⟩ else none

def maxWord : Nat := Nat.pow 2 64 - 1

/-- Appends digits to a significand as long as it fits in 64 bits; from the first digit that does
not fit on, all are left out. The result is the significand and how many digits it took and left
out. -/
def gather : (significand taken : Nat) → Text → Nat × Nat × Nat
  | s, k, [] => (s, k, 0)
  | s, k, c :: t =>
    let s' := s * 10 + (c.toNat - '0'.toNat)
    if maxWord < s' then (s, k, (c :: t).length) else gather s' (k + 1) t

/-- The value of a numeral as a floating-point number: the digits that fit in 64 bits are rounded,
and the result is scaled by the power of ten that is left. Digits left out before the point count
as zeros, those after it not at all. -/
def real? (n : Numeral) : Option Binary64 := do
  let (s, _, dropped) := gather 0 0 n.whole
  let (s, taken, _) := gather s 0 (n.fraction.getD [])
  let written : Int := match n.exponent with
    | some (true, ds) => -(Nat.ofDigitChars 10 ds 0 : Int)
    | some (false, ds) => Nat.ofDigitChars 10 ds 0
    | none => 0
  (← Binary64.ofRatio? n.negative s 1).scaleTen? ((dropped : Int) - taken + written)

def number? (n : Numeral) : Option Number :=
  if n.fraction.isSome ∨ n.exponent.isSome then n.real?.map .real
  else
    let k := Nat.ofDigitChars 10 n.whole 0
    if n.negative then
      if 0 < k ∧ k ≤ Nat.pow 2 63 then some (.int (-k)) else n.real?.map .real
    else if k ≤ maxWord then some (.int k) else n.real?.map .real

end Numeral

namespace Number

def read? (t : Text) : Option Number :=
  Numeral.read? t >>= Numeral.number?

def intText (n : Int) : Text :=
  (if n < 0 then ['-'] else []) ++ Nat.toDigits 10 n.natAbs

def text : Number → Text
  | .int n => intText n
  | .real x => x.text

end Number

end Scratchpad.Json
