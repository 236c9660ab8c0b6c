import BpfBoot.Json5.Value
import BpfBoot.Text.Numeral

/-!
# JSON5 numbers

A number without a point or an exponent is an integer of 64 bits, one in base sixteen an integer of 32
bits without a sign; everything else is a floating point number. A number out of range is an error.
-/

namespace BpfBoot.Json5

open Number Text

/-- A number as it is written, with the digits before and after the point. -/
inductive Numeral where
  | hex (digits : List Char)
  | decimal (whole places : List Char) (hasPoint : Bool) (exponent : Option (Bool × List Char))
  | infinity
  | nan
  deriving DecidableEq, Repr

/-- The digits at the start of a text, and the rest. -/
def spanDigits (s : List Char) : List Char × List Char :=
  s.span isDigit

/-- Reads an exponent: the letter, an optional sign, and digits. -/
def readExponent (s : List Char) : Option (Bool × List Char) × List Char :=
  match s with
  | c :: rest =>
      if c == 'e' || c == 'E' then
        let (negative, digits) := match rest with
          | '-' :: digits => (true, digits)
          | '+' :: digits => (false, digits)
          | _ => (false, rest)
        match spanDigits digits with
        | ([], _) => (none, s)
        | (digits, rest) => (some (negative, digits), rest)
      else (none, s)
  | [] => (none, s)

/-- Reads the digits before the point: a zero, or digits that do not start with one. -/
def readWhole (s : List Char) : List Char × List Char :=
  match s with
  | '0' :: rest => (['0'], rest)
  | _ => spanDigits s

def readDecimal? (s : List Char) : Option (Numeral × List Char) :=
  match readWhole s with
  | ([], '.' :: rest) =>
      match spanDigits rest with
      | ([], _) => none
      | (places, rest) =>
          let (exponent, rest) := readExponent rest
          some (.decimal [] places true exponent, rest)
  | ([], _) => none
  | (whole, '.' :: rest) =>
      let (places, rest) := spanDigits rest
      let (exponent, rest) := readExponent rest
      some (.decimal whole places true exponent, rest)
  | (whole, rest) =>
      let (exponent, rest) := readExponent rest
      some (.decimal whole [] false exponent, rest)

def readHex? (s : List Char) : Option (Numeral × List Char) :=
  match s with
  | '0' :: x :: rest =>
      if x == 'x' || x == 'X' then
        match rest.span isHexDigit with
        | ([], _) => none
        | (digits, rest) => some (.hex digits, rest)
      else none
  | _ => none

/-- What follows `start` in a text that starts with it. -/
def afterStart? : (start s : List Char) → Option (List Char)
  | [], s => some s
  | _ :: _, [] => none
  | c :: start, d :: s => if c == d then afterStart? start s else none

/-- Reads a number without its sign. -/
def readNumeral? (s : List Char) : Option (Numeral × List Char) :=
  match readHex? s with
  | some r => some r
  | none =>
      match readDecimal? s with
      | some r => some r
      | none =>
          match afterStart? "Infinity".toList s with
          | some rest => some (.infinity, rest)
          | none => (afterStart? "NaN".toList s).map fun rest => (.nan, rest)

inductive Sign where
  | none
  | plus
  | minus
  deriving DecidableEq, Repr

def readSign (s : List Char) : Sign × List Char :=
  match s with
  | '+' :: rest => (.plus, rest)
  | '-' :: rest => (.minus, rest)
  | _ => (.none, s)

/-- The bound on integers in base sixteen. -/
def hexBound : Nat := 0x100000000

/-- The bound on integers above zero, and on the opposites of those below zero, exclusive. -/
def integerBound : Nat := 0x8000000000000000

/-- The integer that decimal digits write. -/
def integerOf? (sign : Sign) (digits : List Char) : Option Value :=
  let n := numeralValue 10 digits
  if sign = .minus then if n ≤ integerBound then some (.integer (-Int.ofNat n)) else none
  else if n < integerBound then some (.integer (Int.ofNat n)) else none

/-- The exponent that an exponent part writes. -/
def exponentOf : Option (Bool × List Char) → Int
  | none => 0
  | some (negative, digits) =>
      let n := Int.ofNat (numeralValue 10 digits)
      if negative then -n else n

/-- The value of a number, if it is in range. A plus sign may stand only before digits in base ten, a
minus sign also before `Infinity` and `NaN`. -/
def valueOf? (sign : Sign) : Numeral → Option Value
  | .hex digits =>
      let n := numeralValue 16 digits
      if sign = .none ∧ n < hexBound then some (.integer (Int.ofNat n)) else none
  | .decimal whole _ false none => integerOf? sign whole
  | .decimal whole places _ exponent =>
      let x := Binary64.ofDecimal (sign = .minus) (numeralValue 10 (whole ++ places))
        (exponentOf exponent - Int.ofNat places.length)
      if x.isFinite then some (.float x) else none
  | .infinity => if sign = .plus then none else some (.float (.infinite (sign = .minus)))
  | .nan => if sign = .plus then none else some (.float .nan)

def readNumber? (s : List Char) : Option (Value × List Char) := do
  let (sign, s) := readSign s
  let (numeral, rest) ← readNumeral? s
  let value ← valueOf? sign numeral
  return (value, rest)

end BpfBoot.Json5
