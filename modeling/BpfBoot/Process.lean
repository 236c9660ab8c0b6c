import BpfBoot.Environment
import BpfBoot.Errno
import BpfBoot.File.Path
import BpfBoot.Text.Numeral

/-!
# Processes

A process can become another program, or start one as a process of its own and wait until that ends.
-/

namespace BpfBoot

/-- How a process ended. -/
inductive ExitStatus where
  | exited (code : Nat)
  | killed (signal : Nat)
  deriving DecidableEq, Repr

namespace ExitStatus

def isSuccess (s : ExitStatus) : Bool :=
  s == .exited 0

/-- The code of a process that was not killed. -/
def code? : ExitStatus → Option Nat
  | .exited code => some code
  | .killed _ => none

def signalNames : List (Nat × String) :=
  [(1, "SIGHUP"), (2, "SIGINT"), (3, "SIGQUIT"), (4, "SIGILL"), (5, "SIGTRAP"), (6, "SIGABRT"),
   (7, "SIGBUS"), (8, "SIGFPE"), (9, "SIGKILL"), (10, "SIGUSR1"), (11, "SIGSEGV"), (12, "SIGUSR2"),
   (13, "SIGPIPE"), (14, "SIGALRM"), (15, "SIGTERM"), (16, "SIGSTKFLT"), (17, "SIGCHLD"),
   (18, "SIGCONT"), (19, "SIGSTOP"), (20, "SIGTSTP"), (21, "SIGTTIN"), (22, "SIGTTOU"),
   (23, "SIGURG"), (24, "SIGXCPU"), (25, "SIGXFSZ"), (26, "SIGVTALRM"), (27, "SIGPROF"),
   (28, "SIGWINCH"), (29, "SIGIO"), (30, "SIGPWR"), (31, "SIGSYS")]

def message : ExitStatus → String
  | .exited code => "exit status: " ++ Text.decimal code
  | .killed signal =>
      let name := match signalNames.lookup signal with
        | some name => " (" ++ name ++ ")"
        | none => ""
      "signal: " ++ Text.decimal signal ++ name

end ExitStatus

/-- What came of running a program: how it ended and what it printed. -/
structure Execution where
  status : ExitStatus
  output : Bytes
  deriving DecidableEq, Repr

/-- A program that a process wants to become, with all that the program gets. -/
structure Successor where
  program : Path
  arguments : List Bytes
  environment : Environment
  deriving DecidableEq, Repr

/-- What a process can do about other programs, in worlds of type `σ`. -/
structure Processes (σ : Type) where
  environment : σ → Environment
  /-- Becomes another program. The status is the one with which that program ends. -/
  replace : Successor → σ → Except Errno ExitStatus × σ
  /-- Starts a program with arguments and waits for its end. The last argument says whether its output
  is kept instead of being printed. -/
  start : Path → List String → Bool → σ → Except IoError Execution × σ

namespace Processes

/-- The failure to start a program with an argument that holds a NUL byte. -/
def nulFailure : IoError :=
  .other "nul byte found in provided data"

/-- Whether a text can be an argument of a program. -/
def isArgument (s : String) : Bool :=
  !s.toList.contains '\x00'

variable {σ : Type}

/-- Starts a program, unless a NUL byte is in its path or in an argument. -/
def run (p : Processes σ) (program : Path) (arguments : List String) (keepOutput : Bool)
    (world : σ) : Except IoError Execution × σ :=
  if program.hasNul || !arguments.all isArgument then (.error nulFailure, world)
  else p.start program arguments keepOutput world

end Processes

end BpfBoot
