/-!
# Numerals

Numbers are written in base ten, and versions and modes also in base sixteen with small letters,
padded with zeros to a fixed width where a table of them should line up.
-/

namespace BpfBoot.Text

/-- Whether a character is one of the ten ASCII digits. -/
def isDigit (c : Char) : Bool :=
  '0' ≤ c && c ≤ '9'

/-- The number that a digit stands for; meaningful for hexadecimal digits only. -/
def digitValue (c : Char) : Nat :=
  if c ≤ '9' then c.toNat - '0'.toNat
  else if c ≤ 'F' then c.toNat - 'A'.toNat + 10
  else c.toNat - 'a'.toNat + 10

def isHexDigit (c : Char) : Bool :=
  isDigit c || ('a' ≤ c && c ≤ 'f') || ('A' ≤ c && c ≤ 'F')

/-- The number that a run of digits writes in the given base, leading zeros allowed. -/
def numeralValue (base : Nat) (digits : List Char) : Nat :=
  digits.foldl (fun n c => base * n + digitValue c) 0

/-- Characters padded on the left up to a width. -/
def padLeft (width : Nat) (pad : Char) (s : List Char) : List Char :=
  List.replicate (width - s.length) pad ++ s

/-- A number in base ten. -/
def decimal (n : Nat) : String :=
  String.ofList (Nat.toDigits 10 n)

/-- An integer in base ten, with a minus sign if it is negative. -/
def signedDecimal (n : Int) : String :=
  if n < 0 then "-" ++ decimal n.natAbs else decimal n.natAbs

/-- A number in base sixteen, with leading zeros up to `width` digits. -/
def hex (n : Nat) (width : Nat) : String :=
  String.ofList (padLeft width '0' (Nat.toDigits 16 n))

/--
Reads an optional plus sign and one or more digits as a number below `bound`; anything else,
white space included, is not such a number.
-/
def natBelow? (bound : Nat) (s : List Char) : Option Nat :=
  let digits := match s with
    | '+' :: rest => rest
    | _ => s
  if digits.isEmpty || !digits.all isDigit then none
  else
    let n := numeralValue 10 digits
    if n < bound then some n else none

end BpfBoot.Text
