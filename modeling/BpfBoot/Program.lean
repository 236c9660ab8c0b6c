import BpfBoot.Bootstrap
import BpfBoot.CommandLine
import BpfBoot.HandOff
import BpfBoot.Log.Output
import BpfBoot.Settings.Error

/-!
# The program

The program reads its command line, then its configuration, and opens its logs. Called with `done` it
marks all programs as loaded, which must happen even without a configuration and without logs. Called
without, it runs the boot sequence, and may hand over control in the end. The way it ends tells the
init process what to do.
-/

namespace BpfBoot

open Log

/-- What the program finds around itself, in worlds of type `σ`. -/
structure Surroundings (σ : Type) where
  /-- Loads the settings; the directory of the configuration may be given. -/
  loadSettings : Option String → σ → Except Settings.SettingsError Settings
  openLogs : LogsConfig → σ → Except SetupError Logs × σ
  writeLogs : Logs → List Event → σ → σ
  print : String → σ → σ
  complain : String → σ → σ
  /-- Lifts the limit on locked memory; whether that succeeds. -/
  liftMemoryLimit : σ → Bool × σ
  properties : PropertyStore σ
  facts : σ → SystemFacts
  platform : LoaderSettings → Platform σ
  loader : LoaderSettings → Object.ObjectLoader σ
  processes : Processes σ

/-- How the program ends. -/
inductive Ending where
  | exited (code : Nat)
  /-- Another program took over. -/
  | tookOver (takeover : HandOff.Takeover)
  deriving DecidableEq, Repr

def Ending.exitStatus : Ending → ExitStatus
  | .exited code => .exited code
  | .tookOver takeover => takeover.exitStatus

/-- Why the program could not begin. -/
inductive SetupFailure where
  | settings (source : Settings.SettingsError)
  | logs (source : SetupError)
  deriving DecidableEq, Repr

/-- The failure and what caused it, on one line. -/
def SetupFailure.message : SetupFailure → String
  | .settings source => "invalid configuration: " ++ source.message
  | .logs source => "cannot set up logging: " ++ source.message

namespace Program

variable {σ : Type} (s : Surroundings σ)

/-- The code of a run in which all went well. -/
def successCode : Nat := 0

/-- The code of a run that could not begin. -/
def failureCode : Nat := 1

/-- A line about a failure, for the standard error output. -/
def complaint (message : String) : String :=
  "netbpfload: " ++ message ++ "\n"

/-- Loads the settings and opens the logs. -/
def setUp (configDir : Option String) (world : σ) : Except SetupFailure (Settings × Logs) × σ :=
  match s.loadSettings configDir world with
  | .error e => (.error (.settings e), world)
  | .ok settings =>
      match s.openLogs settings.logs world with
      | (.ok logs, world) => (.ok (settings, logs), world)
      | (.error e, world) => (.error (.logs e), world)

/-- Answers a command line that is not carried out. -/
def refuse (e : UsageError) (world : σ) : Ending × σ :=
  let write := if e = .help then s.print else s.complain
  (.exited e.exitCode, write e.notice world)

/-! ## The second call -/

/-- The code of the second call, in which the property was set or not, with the event of a failure. -/
def doneCode : Except LoaderError Unit → List Event × Nat
  | .ok () => ([], successCode)
  | .error e =>
      let (event, code) := (FailureReport.mk (.loader e) []).conclude
      ([event], code)

/-- Marks all programs as loaded when the logs are open. -/
def markDone (logs : Logs) (world : σ) : Ending × σ :=
  let outcome := (finalize s.properties).outcome world
  let (events, code) := doneCode outcome.value
  (.exited code, s.writeLogs logs (outcome.events ++ events) outcome.world)

/-- Marks all programs as loaded when there are no logs: failures are written to the standard error
output. -/
def markDoneUnlogged (reason : SetupFailure) (world : σ) : Ending × σ :=
  let outcome := (finalize s.properties).outcome (s.complain (complaint reason.message) world)
  let world := match outcome.value with
    | .ok () => outcome.world
    | .error e => s.complain (complaint e.message) outcome.world
  (.exited (doneCode outcome.value).2, world)

/-! ## The first call -/

/-- The event that tells that the limit on locked memory stays. -/
def memoryLimitEvent : Event :=
  ⟨.debug, "netbpfload", "remove limit on locked memory failed, ret is: -1"⟩

/-- Lifts the limit on locked memory, for kernels that count the memory of programs and maps as
locked. A failure is only reported. -/
def liftMemoryLimit : Logged σ Unit := do
  if !(← act s.liftMemoryLimit) then report memoryLimitEvent

/-- The boot sequence on a device with the given capabilities. -/
def bootstrap (settings : LoaderSettings) (caps : Capabilities) : Bootstrap σ where
  caps
  platform := s.platform settings
  loader := s.loader settings
  locations := settings.locations
  settings

/-- Finds out about the device and runs the boot sequence. -/
def load (settings : Settings) : Logged σ (Except LoaderError Completion) := do
  liftMemoryLimit s
  let caps ← Capabilities.probe s.properties s.facts settings.device
  follow (bootstrap s settings.loader caps).run

/-- Hands over control. The logs are closed by then, so a failure is written to the standard error
output. -/
def handOff (settings : LoaderSettings) (program : String) (world : σ) : Ending × σ :=
  match (HandOff.ofName settings.handOff).run s.processes (.ofString program) world with
  | (.ok takeover, world) => (.tookOver takeover, world)
  | (.error e, world) =>
      let e := LoaderError.handOff e
      (.exited e.exitCode, s.complain (complaint ("FATAL: " ++ e.message)) world)

/-- Runs the boot sequence and what follows it. -/
def boot (settings : Settings) (logs : Logs) (world : σ) : Ending × σ :=
  let outcome := (load s settings).outcome world
  match outcome.value with
  | .ok .finished => (.exited successCode, s.writeLogs logs outcome.events outcome.world)
  | .ok (.handOff program) =>
      handOff s settings.loader program (s.writeLogs logs outcome.events outcome.world)
  | .error e =>
      let (event, code) := (FailureReport.mk (.loader e) []).conclude
      (.exited code, s.writeLogs logs (outcome.events ++ [event]) outcome.world)

/-- Runs the program with the arguments after its name. -/
def run (arguments : List String) (world : σ) : Ending × σ :=
  match CommandLine.parse arguments with
  | .error e => refuse s e world
  | .ok line =>
      match setUp s line.configDir world, line.done with
      | (.ok (_, logs), world), true => markDone s logs world
      | (.error reason, world), true => markDoneUnlogged s reason world
      | (.ok (settings, logs), world), false => boot s settings logs world
      | (.error reason, world), false =>
          (.exited failureCode, s.complain (complaint reason.message) world)

end Program

end BpfBoot
