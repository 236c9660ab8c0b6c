/-!
# Byte strings

Files, pinned paths, map keys and program texts are byte strings. They are lists, so that cutting and
joining them is the list library's `take`, `drop` and `++`.
-/

namespace BpfBoot

abbrev Bytes := List UInt8

namespace Bytes

/-- The bytes before the first NUL, or all of them if there is none. -/
def upToNul (bytes : Bytes) : Bytes :=
  bytes.takeWhile (· != 0)

/-- The number that the bytes write, least significant byte first. -/
def toNatLE : Bytes → Nat
  | [] => 0
  | b :: rest => b.toNat + 256 * toNatLE rest

/-- The number that the bytes write, most significant byte first. -/
def toNatBE (bytes : Bytes) : Nat :=
  toNatLE bytes.reverse

/-- The `count` lowest bytes of a number, least significant byte first. -/
def ofNatLE : (count : Nat) → Nat → Bytes
  | 0, _ => []
  | count + 1, n => UInt8.ofNat n :: ofNatLE count (n / 256)

/-- The little-endian number in the first four bytes, if there are four. -/
def readU32? (bytes : Bytes) : Option Nat :=
  if 4 ≤ bytes.length then some (toNatLE (bytes.take 4)) else none

/-- The `length` bytes that start at `offset`, if the byte string reaches that far. -/
def slice? (bytes : Bytes) (offset length : Nat) : Option Bytes :=
  if offset + length ≤ bytes.length then some ((bytes.drop offset).take length) else none

end Bytes

end BpfBoot
