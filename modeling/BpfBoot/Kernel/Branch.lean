import BpfBoot.Kernel.Version

/-!
# Kernel branches

Two tables of branches decide which kernels a device may run: those with long term support, and the
point release that each branch must have reached on Android V.
-/

namespace BpfBoot

/-- The releases that share a major and a minor number. -/
structure Branch where
  major : Nat
  minor : Nat
  deriving DecidableEq, Repr

def ltsBranches : List Branch :=
  [⟨4, 4⟩, ⟨4, 9⟩, ⟨4, 14⟩, ⟨4, 19⟩, ⟨5, 4⟩, ⟨5, 10⟩, ⟨5, 15⟩, ⟨6, 1⟩, ⟨6, 6⟩]

/-- The point release that a branch must have reached on Android V. -/
def requiredPointReleases : List (Branch × Nat) :=
  [(⟨4, 19⟩, 236), (⟨5, 4⟩, 186), (⟨5, 10⟩, 199), (⟨5, 15⟩, 136), (⟨6, 1⟩, 57), (⟨6, 6⟩, 0)]

namespace KernelVersion

def isLongTerm (v : KernelVersion) : Bool :=
  ltsBranches.any fun branch => v.isOnBranch branch.major branch.minor

/-- The release that the version's branch must have reached on Android V, if there is one. -/
def requiredRelease? (v : KernelVersion) : Option KernelVersion :=
  (requiredPointReleases.find? fun (branch, _) => v.isOnBranch branch.major branch.minor).map
    fun (branch, sub) => ofParts branch.major branch.minor sub

/-- Whether the kernel has the fixes that offloading of tethered UDP traffic needs. -/
def supportsUdpOffload (v : KernelVersion) : Bool :=
  v.isInRange (ofParts 4 14 222) (ofParts 4 19 0)
    || v.isInRange (ofParts 4 19 176) (ofParts 5 4 0)
    || v.isAtLeast 5 4 98

end KernelVersion

end BpfBoot
