import BpfBoot.File.System
import BpfBoot.Log.Event
import BpfBoot.Text.Quoted

/-!
# Kernel switches

A kernel switch is a file under `/proc/sys`. Its value is written with one write, because the kernel
takes each write as a value of its own, so a write that takes only a part of the value has failed.
-/

namespace BpfBoot

/-- Why a switch was not set. -/
inductive SysctlError where
  | openFailed (path : Path) (source : IoError)
  | writeFailed (path : Path) (value : String) (source : IoError)
  | shortWrite (path : Path) (value : String) (length written : Nat)
  deriving DecidableEq, Repr

namespace SysctlError

def message : SysctlError → String
  | .openFailed path source =>
      "open('" ++ path.display ++ "', O_WRONLY | O_CLOEXEC) -> " ++ source.message
  | .writeFailed path value source =>
      "write('" ++ path.display ++ "', " ++ Text.quoted value ++ ") -> " ++ source.message
  | .shortWrite path value length written =>
      "write('" ++ path.display ++ "', " ++ Text.quoted value ++ ", " ++ Text.decimal length
        ++ ") -> short write [" ++ Text.decimal written ++ "]"

/-- The error number that stands for the failure. -/
def errno : SysctlError → Errno
  | .openFailed _ source | .writeFailed _ _ source => source.errno?.getD .eio
  | .shortWrite .. => .einval

def causes : SysctlError → List String
  | .openFailed _ source | .writeFailed _ _ source => [source.message]
  | .shortWrite .. => []

end SysctlError

namespace Sysctl

/-- What the kernel does with a write. -/
inductive WriteOutcome where
  /-- It takes the whole value. -/
  | whole
  /-- It takes at most so many bytes. -/
  | atMost (count : Nat)
  | fails (errno : Errno)
  deriving DecidableEq, Repr

def write (outcome : WriteOutcome) (path : Path) (value : String) (fs : Files) :
    Except SysctlError Unit × Files :=
  match fs.openForWriting path with
  | .error source => (.error (.openFailed path source), fs)
  | .ok _ =>
      let data := Text.Utf8.encode value
      let taken := match outcome with
        | .atMost count => min count data.length
        | _ => data.length
      match outcome with
      | .fails errno => (.error (.writeFailed path value (.os errno)), fs)
      | _ =>
          let after := fs.overwrite path (data.take taken)
          if taken == data.length then (.ok (), after)
          else (.error (.shortWrite path value data.length taken), after)

/-- The event that reports a switch that was not set. -/
def failureEvent (e : SysctlError) : Log.Event :=
  Log.failure (e.message ++ " [" ++ e.errno.message ++ "]")

/-- Writes a value to a switch and reports a failure. -/
def writeLogged (outcome : WriteOutcome) (path : Path) (value : String) (fs : Files) :
    Except SysctlError Unit × List Log.Event × Files :=
  match write outcome path value fs with
  | (.ok (), fs) => (.ok (), [], fs)
  | (.error e, fs) => (.error e, [failureEvent e], fs)

end Sysctl

end BpfBoot
