import BpfBoot.Errno
import BpfBoot.File.Path

/-!
# Failures to hand over control
-/

namespace BpfBoot

/-- Why another program could not take over. -/
inductive HandOffError where
  /-- The process could not become the program. -/
  | exec (path : Path) (errno : Errno)
  /-- The program could not be started as a process of its own. -/
  | spawn (path : Path) (source : IoError)
  /-- The path holds a NUL byte. -/
  | nul (path : Path)
  deriving DecidableEq, Repr

namespace HandOffError

def message : HandOffError → String
  | .exec path errno => "execve('" ++ path.display ++ "'): " ++ errno.message
  | .spawn path source => "spawn('" ++ path.display ++ "'): " ++ source.message
  | .nul path => "invalid argument for " ++ path.display ++ ": contains NUL"

def causes : HandOffError → List String
  | .spawn _ source => [source.message]
  | .exec .. | .nul _ => []

end HandOffError

end BpfBoot
