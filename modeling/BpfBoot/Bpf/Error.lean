import BpfBoot.Errno
import BpfBoot.Text.Numeral
import BpfBoot.Text.Quoted

/-!
# Failures of BPF operations

What can go wrong when a map is made, opened or used, and the error number that stands for each case.
-/

namespace BpfBoot

/-- Why an operation on BPF maps or programs failed. -/
inductive BpfError where
  /-- The kernel refused a `bpf` command. -/
  | command (name : String) (errno : Errno)
  /-- A buffer has not the size that the map asks for. -/
  | bufferSize (what : String) (length size : Nat)
  /-- A path holds a NUL byte. -/
  | path (shown : String)
  /-- An element did not read back as it was written. -/
  | readback (actual expected : List Nat)
  /-- A number names no way to open a map. -/
  | accessMode (mode : Nat)
  /-- Another system call failed. -/
  | system (call : String) (errno : Errno)
  /-- The kernel's description of a map is too short to hold its sizes. -/
  | infoTooShort (length : Nat)
  /-- A map has not the expected sizes. -/
  | sizeMismatch (what : String) (actual expected : Nat)
  deriving DecidableEq, Repr

namespace BpfError

def message : BpfError → String
  | .command name errno => "bpf(" ++ name ++ ") -> " ++ errno.message
  | .bufferSize what length size =>
      "buffer of " ++ Text.decimal length ++ " bytes does not match map " ++ what ++ " size "
        ++ Text.decimal size
  | .path shown => "invalid pin path: " ++ shown
  | .readback actual expected =>
      "read back " ++ Text.bracketed actual ++ ", expected " ++ Text.bracketed expected
  | .accessMode mode => "invalid map access mode 0x" ++ Text.hex mode 1
  | .system call errno => call ++ " -> " ++ errno.message
  | .infoTooShort length =>
      "map info of " ++ Text.decimal length ++ " bytes lacks key and value sizes"
  | .sizeMismatch what actual expected =>
      "map " ++ what ++ " size is " ++ Text.decimal actual ++ ", expected " ++ Text.decimal expected

/-- The error number that stands for the failure. -/
def errno : BpfError → Errno
  | .command _ errno | .system _ errno => errno
  | .bufferSize .. | .path _ | .accessMode _ => .einval
  | .readback .. => .eio
  | .infoTooShort _ => .eopnotsupp
  | .sizeMismatch .. => .ebadfd

end BpfError

end BpfBoot
