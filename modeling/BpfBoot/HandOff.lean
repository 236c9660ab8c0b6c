import BpfBoot.HandOff.Error
import BpfBoot.Process

/-!
# Handing over control

On Android V the platform's loader takes over in the end. Usually the process becomes that program,
with its path as the only argument and with the environment that the process has. Where the process
must stay what it is, the program is started beside it, and its exit code is passed on.
-/

namespace BpfBoot

/-- How another program takes over. -/
inductive HandOff where
  /-- The process becomes the program. -/
  | replace
  /-- The program runs as a process of its own. -/
  | spawn
  deriving DecidableEq, Repr

namespace HandOff

/-- The name by which the configuration asks for a process of its own. -/
def spawnName : String := "spawn"

/-- The way that the configuration names; all other names mean that the process is replaced. -/
def ofName (name : String) : HandOff :=
  if name == spawnName then .spawn else .replace

/-- What came of a program that took over. -/
inductive Takeover where
  /-- The process became the program, which ended so. -/
  | replaced (status : ExitStatus)
  /-- The program ran beside the process, and ended so. -/
  | ended (status : ExitStatus)
  deriving DecidableEq, Repr

namespace Takeover

/-- The code that stands for a program that was killed. -/
def killedCode : Nat := 1

def exitStatus : Takeover → ExitStatus
  | .replaced status => status
  | .ended status => .exited (status.code?.getD killedCode)

end Takeover

/-- What a program gets that takes over. -/
def successor (env : Environment) (program : Path) : Successor :=
  ⟨program, [program.bytes], env.passedOn⟩

/-- Whether a NUL byte is in what a program would get. -/
def hasNul (s : Successor) : Bool :=
  s.program.hasNul || s.environment.any (·.contains 0)

variable {σ : Type}

def run (handOff : HandOff) (p : Processes σ) (program : Path) (world : σ) :
    Except HandOffError Takeover × σ :=
  match handOff with
  | .replace =>
      let s := successor (p.environment world) program
      if hasNul s then (.error (.nul program), world)
      else
        match p.replace s world with
        | (.ok status, world) => (.ok (.replaced status), world)
        | (.error errno, world) => (.error (.exec program errno), world)
  | .spawn =>
      match p.run program [] false world with
      | (.ok execution, world) => (.ok (.ended execution.status), world)
      | (.error source, world) => (.error (.spawn program source), world)

end HandOff

end BpfBoot
