import Scratchpad.Text.Basic

/-!
Binary floating-point numbers of 64 bits, as exact dyadic fractions. `ofRatio?` rounds a fraction to
the nearest such number, a half to the even neighbour; products and quotients are rounded exact
values. `shortest` finds the fewest decimal digits that round back to the number.
-/

set_option autoImplicit false
set_option relaxedAutoImplicit false

namespace Scratchpad.Json

/-- A finite number of the format: the mantissa times two to the exponent, with a sign. -/
structure Binary64 where
  /-- Whether the sign is minus; zero has a sign too. -/
  negative : Bool
  /-- A number below two to the 53. -/
  mantissa : Nat
  /-- The exponent of two, at least -1074. -/
  exponent : Int
  deriving DecidableEq, Repr

namespace Binary64

/-- The nearest integer to a fraction; a half goes to the even neighbour. -/
def roundDiv (num den : Nat) : Nat :=
  let q := num / den
  let twice := 2 * (num % den)
  if twice < den ∨ (twice = den ∧ q % 2 = 0) then q else q + 1

def shifted (num den : Nat) (q : Int) : Nat × Nat :=
  if 0 ≤ q then (num, den * Nat.pow 2 q.toNat) else (num * Nat.pow 2 (-q).toNat, den)

/-- The mantissa and exponent nearest to a positive fraction, unless it is too large. -/
def nearest? (num den : Nat) : Option (Nat × Int) :=
  let guess : Int := (num.log2 : Int) - den.log2 - 52
  let s := shifted num den guess
  let q := max (if Nat.pow 2 52 ≤ s.1 / s.2 then guess else guess - 1) (-1074)
  let s := shifted num den q
  let m := roundDiv s.1 s.2
  let r := if m = Nat.pow 2 53 then (Nat.pow 2 52, q + 1) else (m, q)
  if 971 < r.2 then none else some r

def ofRatio? (negative : Bool) (num den : Nat) : Option Binary64 :=
  if num = 0 then some ⟨negative, 0, -1074⟩
  else (nearest? num den).map fun r => ⟨negative, r.1, r.2⟩

def zero (negative : Bool) : Binary64 :=
  ⟨negative, 0, -1074⟩

def ofScaled? (negative : Bool) (m n : Nat) (e : Int) : Option Binary64 :=
  if 0 ≤ e then ofRatio? negative (m * Nat.pow 2 e.toNat) n
  else ofRatio? negative m (n * Nat.pow 2 (-e).toNat)

def mul? (x y : Binary64) : Option Binary64 :=
  ofScaled? (x.negative != y.negative) (x.mantissa * y.mantissa) 1 (x.exponent + y.exponent)

def div? (x y : Binary64) : Option Binary64 :=
  ofScaled? (x.negative != y.negative) x.mantissa y.mantissa (x.exponent - y.exponent)

def powTen? (k : Nat) : Option Binary64 :=
  ofRatio? false (Nat.pow 10 k) 1

/-- A number times ten to the `e`, in at most one step for each 308 powers: every step rounds, and a
number that grows too large is refused. -/
def scaleTen? (x : Binary64) (e : Int) : Option Binary64 := do
  if x.mantissa = 0 then return x
  if 308 < e then none
  else if 0 ≤ e then x.mul? (← powTen? e.toNat)
  else if -308 ≤ e then x.div? (← powTen? (-e).toNat)
  else if -616 ≤ e then (← x.div? (← powTen? 308)).div? (← powTen? (-e - 308).toNat)
  else return zero x.negative

/-- The decimal exponent of a positive fraction below one: the first power of ten that lifts it to
one or more, counted down. -/
def negativeExponent (num den : Nat) : (fuel : Nat) → (power : Nat) → Nat
  | 0, k => k
  | fuel + 1, k => if den ≤ num * Nat.pow 10 k then k else negativeExponent num den fuel (k + 1)

def decimalExponent (num den : Nat) : Int :=
  if den ≤ num then ((Nat.toDigits 10 (num / den)).length : Int) - 1
  else -(negativeExponent num den 400 1 : Int)

/-- The decimal `d` times ten to the `k` nearest to the number among those with `n` digits, if it
rounds back to the number. The interval that rounds to a number reaches half way to its neighbours
and holds its ends if the mantissa is even. -/
def digits? (x : Binary64) (n : Nat) : Option (Nat × Int) :=
  let m := x.mantissa
  -- four times the number, and the ends of its interval, over a common denominator
  let low := if m = Nat.pow 2 52 ∧ -1074 < x.exponent then 4 * m - 1 else 4 * m - 2
  let lift := if 0 ≤ x.exponent then Nat.pow 2 x.exponent.toNat else 1
  let den := if 0 ≤ x.exponent then 4 else 4 * Nat.pow 2 (-x.exponent).toNat
  let value := 4 * m * lift
  let k := decimalExponent value den - (n : Int) + 1
  -- a candidate `d` stands for `d * up / down`, compared with the ends over `den`
  let up := if 0 ≤ k then Nat.pow 10 k.toNat else 1
  let down := if 0 ≤ k then 1 else Nat.pow 10 (-k).toNat
  let inside (d : Nat) : Bool :=
    let c := d * up * den
    if m % 2 = 0 then low * lift * down ≤ c && c ≤ (4 * m + 2) * lift * down
    else low * lift * down < c && c < (4 * m + 2) * lift * down
  let below := value * down / (den * up)
  let near := roundDiv (value * down) (den * up)
  let far := if near = below then below + 1 else below
  if inside near then some (near, k) else if inside far then some (far, k) else none

def shortestFrom (x : Binary64) : (fuel : Nat) → (n : Nat) → Nat × Int
  | 0, _ => (0, 0)
  | fuel + 1, n => match x.digits? n with
    | some r => r
    | none => shortestFrom x fuel (n + 1)

/-- The shortest decimal that rounds back to a number other than zero. Seventeen digits always
suffice. -/
def shortest (x : Binary64) : Nat × Int :=
  shortestFrom x 17 1

/-- The digits of a positive number without the zeros at its end, and the exponent of the first. -/
def scientific (d : Nat) (k : Int) : Text × Int :=
  let ds := Nat.toDigits 10 d
  ((ds.reverse.dropWhile (· == '0')).reverse, k + ds.length - 1)

/-- The decimal text of a number: the shortest digits that read back. It is positional for exponents
from -5 to 15, with a fraction in any case, and scientific with a signed exponent otherwise; a
positive exponent carries a plus sign. -/
def text (x : Binary64) : Text :=
  (if x.negative then ['-'] else []) ++
    if x.mantissa = 0 then ['0', '.', '0']
    else
      let s := scientific x.shortest.1 x.shortest.2
      if 0 ≤ s.2 ∧ s.2 ≤ 15 then
        let n := s.2.toNat + 1
        let whole := s.1.take n ++ List.replicate (n - s.1.length) '0'
        let rest := s.1.drop n
        whole ++ '.' :: (if rest.isEmpty then ['0'] else rest)
      else if -5 ≤ s.2 ∧ s.2 < 0 then
        '0' :: '.' :: List.replicate ((-s.2).toNat - 1) '0' ++ s.1
      else
        let tail := s.1.drop 1
        s.1.take 1 ++ (if tail.isEmpty then [] else '.' :: tail) ++
          'e' :: (if s.2 < 0 then '-' else '+') :: Nat.toDigits 10 s.2.natAbs

end Binary64

end Scratchpad.Json
