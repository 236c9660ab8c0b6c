import BpfBoot.Log.Event
import BpfBoot.Settings
import BpfBoot.Text.LetterCase
import BpfBoot.Text.Numeral
import BpfBoot.Text.Quoted
import BpfBoot.Text.Space

/-!
# Log channels

An entry of the configuration that is enabled makes a channel; a disabled one is not even looked at.
With two channels, the failures on the error target go to the second one only and everything else to the
first; the default channel alone gets everything.
-/

namespace BpfBoot.Log

/-- Why an entry of the configuration makes no channel. -/
inductive ConfigError where
  | invalid (name value : String)
  | missing (name : String)
  deriving DecidableEq, Repr

def ConfigError.message : ConfigError → String
  | .invalid name value =>
      "Invalid attribute: " ++ Text.quoted name ++ ", value: " ++ Text.quoted value
  | .missing name => "Missing attribute: " ++ name

/-- How often a log file is replaced by a new one. -/
inductive Rotation where
  | hourly
  | daily
  | never
  deriving DecidableEq, Repr

/-- A log in files. -/
structure LogFile where
  directory : String
  fileName : String
  rotation : Rotation
  maxFiles : Nat
  deriving DecidableEq, Repr

inductive Target where
  | stderr
  | stdout
  | kernelLog
  | file (f : LogFile)
  /-- A file that was removed since it was opened. -/
  | removed
  deriving DecidableEq, Repr

inductive Format where
  | full
  | compact
  | pretty
  | json
  deriving DecidableEq, Repr

structure Channel where
  target : Target
  format : Format
  deriving DecidableEq, Repr

/-- A word without surrounding space and in small letters. -/
def normalWord (s : String) : String :=
  Text.asciiLower (Text.trim s)

namespace Rotation

def parse? (s : String) : Option Rotation :=
  match normalWord s with
  | "hourly" => some .hourly
  | "daily" => some .daily
  | "never" => some .never
  | _ => none

end Rotation

/-- The format that a word names; any other word means the full format. -/
def Format.parse (s : String) : Format :=
  match normalWord s with
  | "compact" => .compact
  | "pretty" => .pretty
  | "json" => .json
  | _ => .full

/-- The number of files that are kept unless the configuration says otherwise. -/
def defaultMaxFiles : Nat := 5

/-- The log in files that an entry describes. -/
def LogFile.ofEntry (e : LogEntry) : Except ConfigError LogFile := do
  let some directory := e.directory | throw (.missing "directory")
  let some fileName := e.fileName | throw (.missing "prefix")
  let rotation := e.rotation.getD "never"
  let some rotation := Rotation.parse? rotation
    | throw (.invalid "Invalid log rotation" rotation)
  return ⟨directory, fileName, rotation, e.maxFiles.getD defaultMaxFiles⟩

/-- The target that an entry describes. -/
def Target.ofEntry (e : LogEntry) : Except ConfigError Target :=
  match e.target with
  | "stderr" => .ok .stderr
  | "stdout" => .ok .stdout
  | "kmsg" => .ok .kernelLog
  | "file" => return .file (← LogFile.ofEntry e)
  | target => .error (.invalid "Invalid log target" target)

/-- The channel that an entry makes. -/
def Channel.ofEntry (e : LogEntry) : Except ConfigError Channel :=
  return ⟨← Target.ofEntry e, Format.parse (e.format.getD "full")⟩

/-- The channel of an entry, if there is one and it is enabled. -/
def channelOf? : Option LogEntry → Except ConfigError (Option Channel)
  | some e => if e.enable then return some (← Channel.ofEntry e) else .ok none
  | none => .ok none

structure Channels where
  default : Option Channel
  errors : Option Channel
  deriving DecidableEq, Repr

namespace Channels

def isFailure (e : Event) : Bool :=
  e.target == errorTarget

def defaultEvents (c : Channels) (events : List Event) : List Event :=
  match c.default with
  | none => []
  | some _ => if c.errors.isSome then events.filter (!isFailure ·) else events

def errorEvents (c : Channels) (events : List Event) : List Event :=
  match c.errors with
  | none => []
  | some _ => events.filter isFailure

end Channels

end BpfBoot.Log
