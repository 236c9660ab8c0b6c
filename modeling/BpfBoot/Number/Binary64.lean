import BpfBoot.Text.Numeral

/-!
# Binary floating point numbers

A number of 64 bits is a whole number of 53 bits times a power of two. Decimal fractions are rounded to
the nearest such number, ties to the even one. All arithmetic is exact, on natural numbers.
-/

namespace BpfBoot.Number

/-- A floating point number of 64 bits. -/
inductive Binary64 where
  | nan
  | infinite (negative : Bool)
  /-- The number `mantissa · 2 ^ exponent`, or its opposite. -/
  | finite (negative : Bool) (mantissa : Nat) (exponent : Int)
  deriving DecidableEq, Repr

/-- A fraction; the denominator is positive wherever one is made. -/
structure Fraction where
  num : Nat
  den : Nat
  deriving DecidableEq, Repr

namespace Fraction

/-- The fraction times a power of `base`. -/
def scale (q : Fraction) (base : Nat) (exponent : Int) : Fraction :=
  match exponent with
  | .ofNat k => ⟨q.num * Nat.pow base k, q.den⟩
  | .negSucc k => ⟨q.num, q.den * Nat.pow base (k + 1)⟩

/-- The nearest whole number; of two that are as near, the even one. -/
def roundHalfEven (q : Fraction) : Nat :=
  let floor := q.num / q.den
  let rest := 2 * (q.num % q.den)
  if q.den < rest || (rest == q.den && floor % 2 == 1) then floor + 1 else floor

/-- The nearest whole number; of two that are as near, the greater one. -/
def roundHalfUp (q : Fraction) : Nat :=
  (2 * q.num + q.den) / (2 * q.den)

def le (q r : Fraction) : Bool :=
  q.num * r.den ≤ r.num * q.den

end Fraction

namespace Binary64

def minExponent : Int := -1074

def maxExponent : Int := 971

/-- The bound on mantissas: they have 53 bits. -/
def mantissaBound : Nat := 0x20000000000000

/-- The least mantissa of 53 bits. -/
def leastFullMantissa : Nat := 0x10000000000000

/-- The exponent of the numbers among which a positive fraction is rounded. -/
def exponentFor (q : Fraction) : Int :=
  let guess : Int := Int.ofNat q.num.log2 - Int.ofNat q.den.log2 - 52
  let scaled := q.scale 2 (-guess)
  let e := if scaled.num < scaled.den * leastFullMantissa then guess - 1 else guess
  max e minExponent

/-- The number next to a fraction. -/
def ofFraction (negative : Bool) (q : Fraction) : Binary64 :=
  if q.num = 0 then .finite negative 0 minExponent
  else
    let e := exponentFor q
    let m := (q.scale 2 (-e)).roundHalfEven
    let (m, e) := if m = mantissaBound then (leastFullMantissa, e + 1) else (m, e)
    if maxExponent < e then .infinite negative else .finite negative m e

/-- Decimal fractions with more digits before the point than this are infinite, those with more zeros after
it are zero. -/
def manyDigits : Int := 400

/-- The number next to `value · 10 ^ exponent`. What is far out of range is not computed. -/
def ofDecimal (negative : Bool) (value : Nat) (exponent : Int) : Binary64 :=
  let places := Int.ofNat (Nat.toDigits 10 value).length + exponent
  if value = 0 then .finite negative 0 minExponent
  else if manyDigits < places then .infinite negative
  else if places < -manyDigits then .finite negative 0 minExponent
  else ofFraction negative (Fraction.scale ⟨value, 1⟩ 10 exponent)

def isFinite : Binary64 → Bool
  | .finite .. => true
  | _ => false

def isZero : Binary64 → Bool
  | .finite _ 0 _ => true
  | _ => false

/-- The nearest natural number that is at most `limit`; halves go up, and what is no number goes to
zero. -/
def clamp (limit : Nat) : Binary64 → Nat
  | .nan | .infinite true => 0
  | .infinite false => limit
  | .finite true _ _ => 0
  | .finite false m e => min limit (Fraction.scale ⟨m, 1⟩ 2 e).roundHalfUp

end Binary64

end BpfBoot.Number
