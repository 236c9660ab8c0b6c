import BpfBoot.Bpf.Error
import BpfBoot.HandOff.Error
import BpfBoot.Kernel.Version
import BpfBoot.Log.Event
import BpfBoot.Object.Error
import BpfBoot.PinDirs
import BpfBoot.Property
import BpfBoot.Sysctl

/-!
# Fatal failures

The failures that end the loader, and the exit status that each of them gives. The init process looks
at two of these: 2 for programs that the device cannot boot without, 125 for the property that could
not be set.
-/

namespace BpfBoot

/-- Why the loader ended. -/
inductive LoaderError where
  | missingInitScripts
  | duplicateInitScripts
  | access (path : Path) (errno : Errno)
  | belowT (apiLevel : Nat)
  | kernelTooOld (release : String) (required : KernelVersion)
  | kernel32BitOnX86
  | unsupportedKernel (kernel : KernelVersion)
  | userspace32Bit
  | unknownBuildType (raw : String)
  | sysctl (source : SysctlError)
  | pinDir (source : PinDirError)
  | criticalLoad (dir : String) (source : Object.ObjectError)
  | selfTest (source : BpfError)
  | handOff (source : HandOffError)
  | property (name value : String) (source : PropertyError)
  deriving DecidableEq, Repr

namespace LoaderError

def message : LoaderError → String
  | .missingInitScripts => "Unable to find platform's bpfloader & netbpfload init scripts."
  | .duplicateInitScripts => "Platform has *both* bpfloader & netbpfload init scripts."
  | .access path errno => "access(" ++ path.display ++ ", F_OK) -> " ++ errno.message
  | .belowT apiLevel =>
      "Impossible - not reachable on Android <T (api level " ++ Text.decimal apiLevel ++ ")."
  | .kernelTooOld release required =>
      "Android " ++ release ++ " requires kernel " ++ required.display ++ "."
  | .kernel32BitOnX86 => "Android V requires X86 kernel to be 64-bit."
  | .unsupportedKernel kernel => "Unsupported kernel version (" ++ kernel.displayHex 7 ++ ")."
  | .userspace32Bit => "64-bit userspace required on 6.2+ kernels."
  | .unknownBuildType raw =>
      "Failed to determine the build type: got " ++ raw ++ ", want 'eng', 'user', or 'userdebug'"
  | .sysctl source => source.message
  | .pinDir source => source.message
  | .criticalLoad dir source =>
      "critical failure loading BPF programs from " ++ dir ++ ": " ++ source.message
  | .selfTest source =>
      "Critical kernel bug - failure to write into index 1 of 2 element bpf map array: "
        ++ source.message
  | .handOff source => source.message
  | .property name value source =>
      "Failed to set " ++ name ++ " property to " ++ value ++ ": " ++ source.message

def causes : LoaderError → List String
  | .sysctl source => source.causes
  | .criticalLoad _ source => source.message :: source.causes
  | .selfTest source => [source.message]
  | .handOff source => source.causes
  | .property _ _ source => source.message :: source.causes
  | _ => []

def exitCode : LoaderError → Nat
  | .criticalLoad .. => 2
  | .property .. => 125
  | _ => 1

end LoaderError

/-- A failure of the program. -/
inductive Failure where
  | loader (e : LoaderError)
  | object (e : Object.ObjectError)
  | bpf (e : BpfError)
  | text (message : String)
  deriving DecidableEq, Repr

namespace Failure

def message : Failure → String
  | .loader e => e.message
  | .object e => e.message
  | .bpf e => e.message
  | .text message => message

def causes : Failure → List String
  | .loader e => e.causes
  | .object e => e.causes
  | .bpf _ | .text _ => []

def exitCode : Failure → Nat
  | .loader e => e.exitCode
  | _ => 1

end Failure

/-- A failure with what was being done when it came up, innermost first. -/
structure FailureReport where
  failure : Failure
  contexts : List String
  deriving DecidableEq, Repr

namespace FailureReport

/-- The report on one line, from the outermost context to the last cause. -/
def message (r : FailureReport) : String :=
  ": ".intercalate (r.contexts.reverse ++ r.failure.message :: r.failure.causes)

/-- The event that reports the failure, and the exit status that it gives. -/
def conclude (r : FailureReport) : Log.Event × Nat :=
  (Log.failure r.message, r.failure.exitCode)

end FailureReport

end BpfBoot
