import BpfBoot.Device
import BpfBoot.Kernel.Version
import BpfBoot.Location
import BpfBoot.Log.Session
import BpfBoot.Property
import BpfBoot.Release
import BpfBoot.Settings
import BpfBoot.Text.Quoted

/-!
# What the device is

The facts on which the loader decides. They are gathered once, partly from the settings, partly from
the properties, partly from the system, and do not change afterwards.
-/

namespace BpfBoot

/-- What the device is. -/
structure Capabilities where
  apiLevel : Nat
  kernel : KernelVersion
  arch : Arch
  kernel64Bit : Bool
  userspace32Bit : Bool
  /-- The build type as the property has it. -/
  rawBuildType : String
  buildType : BuildType := .parse rawBuildType
  /-- Whether a generic system image runs. -/
  gsi : Bool
  deriving DecidableEq, Repr

/-- What the system tells about itself. -/
structure SystemFacts where
  release : Bytes
  arch : String
  kernel64Bit : Bool
  userspace32Bit : Bool
  gsi : Bool
  deriving DecidableEq, Repr

namespace Capabilities

def isAtLeastT (c : Capabilities) : Bool := apiLevelT ≤ c.apiLevel

def isAtLeastU (c : Capabilities) : Bool := apiLevelU ≤ c.apiLevel

def isAtLeastV (c : Capabilities) : Bool := apiLevelV ≤ c.apiLevel

theorem isAtLeastT_iff (c : Capabilities) : c.isAtLeastT = true ↔ 33 ≤ c.apiLevel :=
  decide_eq_true_iff

theorem isAtLeastU_iff (c : Capabilities) : c.isAtLeastU = true ↔ 34 ≤ c.apiLevel :=
  decide_eq_true_iff

theorem isAtLeastV_iff (c : Capabilities) : c.isAtLeastV = true ↔ 35 ≤ c.apiLevel :=
  decide_eq_true_iff

def describeArch (c : Capabilities) : String :=
  c.arch.describe c.userspace32Bit c.kernel64Bit

def logTarget : String := "netbpfload::probe"

def apiLevelBound : Nat := 0x100000000

def parseApiLevel? (value : String) : Option Nat :=
  Text.natBelow? apiLevelBound (Text.trim value).toList

/-- The number of bytes of a kernel's release that are looked at. -/
def releaseLength : Nat := 64

/-- The text of a kernel's release: each byte is a character, up to a NUL. -/
def releaseText (release : Bytes) : String :=
  String.ofList ((Bytes.upToNul (release.take releaseLength)).map fun b => Char.ofNat b.toNat)

def summary (c : Capabilities) : String :=
  let yesNo (b : Bool) : String := if b then "true" else "false"
  "Capabilities \x7b api_level: " ++ Text.decimal c.apiLevel
    ++ ", kernel: KernelVersion(" ++ Text.decimal c.kernel.packed
    ++ "), arch: " ++ c.arch.label
    ++ ", kernel_64bit: " ++ yesNo c.kernel64Bit
    ++ ", userspace_32bit: " ++ yesNo c.userspace32Bit
    ++ ", build_type: " ++ c.buildType.label
    ++ ", build_type_raw: " ++ Text.quoted c.rawBuildType
    ++ ", gsi: " ++ yesNo c.gsi ++ " \x7d"

/-- The facts about a device with the given properties. -/
def ofFacts (facts : SystemFacts) (apiLevel : Option Nat) (rawBuildType : Option String) :
    Capabilities where
  apiLevel := apiLevel.getD 0
  kernel := .parse (releaseText facts.release)
  arch := Arch.parse facts.arch
  kernel64Bit := facts.kernel64Bit
  userspace32Bit := facts.userspace32Bit
  rawBuildType := rawBuildType.getD ""
  gsi := facts.gsi

open Log

variable {σ : Type}

/-- The given value, or else what the property gives. -/
def givenOr {α : Type} (given : Option α) (store : PropertyStore σ) (name : String)
    (read : String → Option α) : Logged σ (Option α) :=
  match given with
  | some a => return some a
  | none => do
      let value ← act (store.get name)
      return value.bind read

/-- Gathers the facts. The system is looked at after the properties. -/
def probe (store : PropertyStore σ) (facts : σ → SystemFacts) (overrides : DeviceOverrides) :
    Logged σ Capabilities := do
  let apiLevel ← givenOr overrides.apiLevel store sdkVersionProperty parseApiLevel?
  let rawBuildType ← givenOr overrides.buildType store buildTypeProperty some
  let facts ← look facts
  let c := ofFacts facts apiLevel rawBuildType
  if c.arch.isUndefined then
    report ⟨.warn, logTarget, "Unsupported architecture: " ++ facts.arch⟩
  report ⟨.debug, logTarget, "probed " ++ c.summary⟩
  return c

end Capabilities

end BpfBoot
