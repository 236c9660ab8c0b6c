import BpfBoot.Text.Numeral
import BpfBoot.Text.Space

/-!
# Kernel versions

A kernel version is one 32-bit number: eight bits for the major number, eight for the minor number and
sixteen for the point release, so that numbers compare as releases do. A component too large for its
field takes the largest value of the field.
-/

namespace BpfBoot

/-- A kernel version, packed into a 32-bit number. -/
structure KernelVersion where
  packed : Nat
  packed_lt : packed < 0x100000000 := by omega
  deriving DecidableEq, Repr

namespace KernelVersion

/-- The version with the given components, each limited to what its field can hold. -/
def ofParts (major minor sub : Nat) : KernelVersion :=
  ⟨min major 0xff * 0x1000000 + min minor 0xff * 0x10000 + min sub 0xffff, by omega⟩

def major (v : KernelVersion) : Nat :=
  v.packed / 0x1000000

def minor (v : KernelVersion) : Nat :=
  v.packed / 0x10000 % 0x100

/-- The point release. -/
def sub (v : KernelVersion) : Nat :=
  v.packed % 0x10000

instance : LE KernelVersion := ⟨fun v w => v.packed ≤ w.packed⟩

instance : LT KernelVersion := ⟨fun v w => v.packed < w.packed⟩

instance (v w : KernelVersion) : Decidable (v ≤ w) :=
  inferInstanceAs (Decidable (v.packed ≤ w.packed))

instance (v w : KernelVersion) : Decidable (v < w) :=
  inferInstanceAs (Decidable (v.packed < w.packed))

def compare (v w : KernelVersion) : Ordering :=
  Ord.compare v.packed w.packed

def isAtLeast (v : KernelVersion) (major minor sub : Nat) : Bool :=
  ofParts major minor sub ≤ v

/-- Whether the version lies between the first release of a branch and that of the next branch. -/
def isOnBranch (v : KernelVersion) (major minor : Nat) : Bool :=
  v.isAtLeast major minor 0 && !v.isAtLeast major (minor + 1) 0

/-- Whether the version is `low` or later and before `high`. -/
def isInRange (v low high : KernelVersion) : Bool :=
  low ≤ v && v < high

/-- The version with dots between its components. -/
def display (v : KernelVersion) : String :=
  Text.decimal v.major ++ "." ++ Text.decimal v.minor ++ "." ++ Text.decimal v.sub

/-- The packed version in base sixteen, with at least `width` digits. -/
def displayHex (v : KernelVersion) (width : Nat) : String :=
  Text.hex v.packed width

/-- One more than the largest number that a component is read as. -/
def componentBound : Nat := 0x100000000

/-- The number that a run of digits writes; one of more than 32 bits is read as the largest of 32 bits. -/
def component (digits : List Char) : Nat :=
  (Text.natBelow? componentBound digits).getD (componentBound - 1)

/-- At most `limit` runs of digits separated by dots, from the start of a text. -/
def leadingRuns : (limit : Nat) → List Char → List (List Char)
  | 0, _ => []
  | limit + 1, s =>
      let digits := s.takeWhile Text.isDigit
      if digits.isEmpty then []
      else
        digits ::
          match s.dropWhile Text.isDigit with
          | '.' :: rest => leadingRuns limit rest
          | _ => []

/-- The version whose components are written by runs of digits; components that are missing are zero. -/
def ofRuns (runs : List (List Char)) : KernelVersion :=
  let parts := runs.map component
  ofParts (parts.getD 0 0) (parts.getD 1 0) (parts.getD 2 0)

/--
The version at the start of a release name such as `5.10.199-android13-4-gd3ad`. White space before it
is skipped, and up to three numbers are read.
-/
def parse (release : String) : KernelVersion :=
  ofRuns (leadingRuns 3 (Text.dropSpace release.toList))

@[simp] theorem packed_ofParts (major minor sub : Nat) :
    (ofParts major minor sub).packed
      = min major 0xff * 0x1000000 + min minor 0xff * 0x10000 + min sub 0xffff := rfl

theorem le_iff (v w : KernelVersion) : v ≤ w ↔ v.packed ≤ w.packed := Iff.rfl

theorem lt_iff (v w : KernelVersion) : v < w ↔ v.packed < w.packed := Iff.rfl

@[simp] theorem major_ofParts (major minor sub : Nat) :
    (ofParts major minor sub).major = min major 0xff := by
  simp only [KernelVersion.major, packed_ofParts]
  omega

@[simp] theorem minor_ofParts (major minor sub : Nat) :
    (ofParts major minor sub).minor = min minor 0xff := by
  simp only [KernelVersion.minor, packed_ofParts]
  omega

@[simp] theorem sub_ofParts (major minor sub : Nat) :
    (ofParts major minor sub).sub = min sub 0xffff := by
  simp only [KernelVersion.sub, packed_ofParts]
  omega

end KernelVersion

end BpfBoot
