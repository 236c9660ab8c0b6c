/-!
# Android releases

A device's API level says which Android release it runs, and with it how strict the loader is. The
loader's own version grows with the release, and an object file may name a range of loader versions.
-/

namespace BpfBoot

def apiLevelT : Nat := 33

def apiLevelU : Nat := 34

def apiLevelV : Nat := 35

/-- The version of the loader that runs on a device. -/
structure LoaderVersion where
  number : Nat
  deriving DecidableEq, Repr

namespace LoaderVersion

/-- The version of the loader before Android T. -/
def mainline : Nat := 42

/-- The lowest version for an object file that names none. -/
def defaultMin : Nat := 0

/-- The bound on the version for an object file that names none. -/
def defaultMax : Nat := 0x10000

/-- The version on a device: each of Android T, U and V adds one. -/
def ofApiLevel (apiLevel : Nat) : LoaderVersion :=
  ⟨mainline + (if apiLevelT ≤ apiLevel then 1 else 0) + (if apiLevelU ≤ apiLevel then 1 else 0)
    + (if apiLevelV ≤ apiLevel then 1 else 0)⟩

/-- Whether the version is `low` or more and less than `high`. -/
def isInRange (v : LoaderVersion) (low high : Nat) : Bool :=
  low ≤ v.number && v.number < high

end LoaderVersion

end BpfBoot
