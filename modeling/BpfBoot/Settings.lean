import BpfBoot.Kernel.Version
import BpfBoot.Location

/-!
# Settings

What the configuration decides: where the logs go, how the loader behaves, and facts about the device
that are given instead of found out.
-/

namespace BpfBoot

/-- Where one of the two logs goes, as the configuration writes it. -/
structure LogEntry where
  enable : Bool
  target : String
  directory : Option String
  fileName : Option String
  rotation : Option String
  maxFiles : Option Nat
  format : Option String
  deriving DecidableEq, Repr

/-- The two logs: one for the failures that somebody has to look at, if it is wanted, and one for
everything else. -/
structure LogsConfig where
  default : LogEntry
  errors : Option LogEntry
  deriving DecidableEq, Repr

/-- How the loader behaves. -/
structure LoaderSettings where
  /-- The root of the BPF file system. -/
  pinRoot : String
  /-- The program that takes over on Android V. -/
  platformLoader : String
  /-- How that program is started. -/
  handOff : String
  /-- The kernel version from which BPF must be closed to unprivileged processes. -/
  unprivilegedRequiredFrom : String
  criticalFailureDelay : Nat
  gsiWarningDelay : Nat
  /-- The locations, unless they are the standard ones. -/
  locationList : Option (List Location)
  deriving DecidableEq, Repr

namespace LoaderSettings

/-- The settings without a configuration. -/
def standard : LoaderSettings where
  pinRoot := bpfRoot
  platformLoader := BpfBoot.platformLoader
  handOff := "exec"
  unprivilegedRequiredFrom := "5.13.0"
  criticalFailureDelay := 20
  gsiWarningDelay := 60
  locationList := none

/-- The kernel version from which it is fatal if BPF cannot be closed to unprivileged processes. -/
def unprivilegedThreshold (s : LoaderSettings) : KernelVersion :=
  .parse s.unprivilegedRequiredFrom

def locations (s : LoaderSettings) : List Location :=
  s.locationList.getD Location.standard

end LoaderSettings

/-- Facts about the device that are given instead of found out. -/
structure DeviceOverrides where
  apiLevel : Option Nat
  buildType : Option String
  deriving DecidableEq, Repr

structure Settings where
  logs : LogsConfig
  loader : LoaderSettings
  device : DeviceOverrides
  deriving DecidableEq, Repr

namespace Settings

/-- The settings without a configuration. -/
def standard : Settings where
  logs := ⟨⟨true, "kmsg", none, none, none, none, none⟩, none⟩
  loader := .standard
  device := ⟨none, none⟩

end Settings

end BpfBoot
