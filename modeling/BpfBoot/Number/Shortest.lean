import BpfBoot.Number.Binary64

/-!
# The shortest decimal

A floating point number is shown by the fewest decimal digits that are read back as the same number; of
several such decimals the one that is nearest to it. The digits stand around a point, without an
exponent.
-/

namespace BpfBoot.Number

/-- The decimal fraction `digits · 10 ^ exponent`. -/
structure Decimal where
  digits : Nat
  exponent : Int
  deriving DecidableEq, Repr

namespace Shortest

/-- The fractions that are rounded to one number, and that number. -/
structure Interval where
  low : Fraction
  value : Fraction
  high : Fraction
  /-- Whether the ends are rounded to the number too. -/
  closed : Bool

/-- The interval of a number `m · 2 ^ e`. -/
def interval (m : Nat) (e : Int) : Interval :=
  let quarter (k : Nat) : Fraction := Fraction.scale ⟨k, 1⟩ 2 (e - 2)
  let isBoundary := m == Binary64.leastFullMantissa && Binary64.minExponent < e
  ⟨quarter (if isBoundary then 4 * m - 1 else 4 * m - 2), quarter (4 * m), quarter (4 * m + 2),
    m % 2 == 0⟩

def Interval.contains (i : Interval) (q : Fraction) : Bool :=
  if i.closed then i.low.le q && q.le i.high else !q.le i.low && !i.high.le q

/-- The least number of places by which a positive fraction must be moved to reach one. -/
def leadingPlaces (q : Fraction) : Nat → Nat → Nat
  | 0, places => places
  | fuel + 1, places =>
      if q.den ≤ q.num * Nat.pow 10 places then places else leadingPlaces q fuel (places + 1)

/-- The number of digits before the point, negative if zeros follow the point. -/
def magnitude (q : Fraction) : Int :=
  let whole := q.num / q.den
  if whole = 0 then 1 - Int.ofNat (leadingPlaces q 330 1)
  else Int.ofNat (Nat.toDigits 10 whole).length

/-- The decimal with so many digits that is nearest to the number, if it is read back. -/
def withDigits? (i : Interval) (count : Nat) : Option Decimal :=
  let exponent := magnitude i.value - Int.ofNat count
  let scaled := i.value.scale 10 (-exponent)
  let below := scaled.num / scaled.den
  let decimal (n : Nat) : Fraction := Fraction.scale ⟨n, 1⟩ 10 exponent
  let fitsBelow := i.contains (decimal below)
  let fitsAbove := i.contains (decimal (below + 1))
  let nearerAbove := scaled.den < 2 * (scaled.num % scaled.den)
  if fitsBelow && !(fitsAbove && nearerAbove) then some ⟨below, exponent⟩
  else if fitsAbove then some ⟨below + 1, exponent⟩
  else none

/-- The shortest decimal of a positive number. -/
def decimal (m : Nat) (e : Int) : Decimal :=
  let i := interval m e
  match (List.range 17).findSome? fun k => withDigits? i (k + 1) with
  | some d => d
  | none => ⟨0, 0⟩

end Shortest

namespace Decimal

/-- The digits around a point, without zeros at the end. -/
def positional (d : Decimal) : String :=
  let digits := Nat.toDigits 10 d.digits
  match d.exponent with
  | .ofNat k => String.ofList (digits ++ List.replicate k '0')
  | .negSucc k =>
      let padded := Text.padLeft (k + 2) '0' digits
      let whole := padded.take (padded.length - (k + 1))
      let places := ((padded.drop (padded.length - (k + 1))).reverse.dropWhile (· == '0')).reverse
      String.ofList (if places.isEmpty then whole else whole ++ '.' :: places)

end Decimal

namespace Binary64

/-- The number as text. -/
def display : Binary64 → String
  | .nan => "NaN"
  | .infinite negative => if negative then "-inf" else "inf"
  | .finite negative m e =>
      let text := if m = 0 then "0" else (Shortest.decimal m e).positional
      if negative then "-" ++ text else text

/-- The number as text, with a point even if it is whole. -/
def displayWithPoint (x : Binary64) : String :=
  let text := x.display
  if x.isFinite && !text.toList.contains '.' then text ++ ".0" else text

end Binary64

end BpfBoot.Number
