import BpfBoot.File.System
import BpfBoot.Log.Clock
import BpfBoot.Log.Filter
import BpfBoot.Log.Line

/-!
# Writing logs

Channels are opened when the loader starts and written when it ends or hands over control. A log in
files keeps a number of old files: the oldest are removed before a new one is begun.
-/

namespace BpfBoot.Log

/-- What a process has written to its terminal. -/
structure Console where
  out : Bytes
  err : Bytes
  deriving DecidableEq, Repr

namespace Console

/-- A terminal that nothing was written to. -/
def blank : Console := ⟨[], []⟩

def print (c : Console) (s : String) : Console :=
  { c with out := c.out ++ Text.Utf8.encode s }

def complain (c : Console) (s : String) : Console :=
  { c with err := c.err ++ Text.Utf8.encode s }

end Console

/-- Why logging could not begin. -/
inductive SetupError where
  | config (e : ConfigError)
  | fileNotMade (source : IoError)
  | directoryNotMade (source : IoError)
  deriving DecidableEq, Repr

namespace SetupError

def message : SetupError → String
  | .config e => e.message
  | .fileNotMade source =>
      "failed to create log file: " ++ source.message ++ ": " ++ source.message
  | .directoryNotMade source =>
      "failed to create log directory: " ++ source.message ++ ": " ++ source.message

end SetupError

namespace LogFile

def nameAt (f : LogFile) (clock : Clock) : String :=
  let stamp := match f.rotation with
    | .hourly => clock.hour
    | .daily | .never => clock.day
  if f.fileName.isEmpty then stamp
  else
    match f.rotation with
    | .never => f.fileName
    | _ => f.fileName ++ "." ++ stamp

def pathAt (f : LogFile) (clock : Clock) : Path :=
  (Path.ofString f.directory).join (.ofString (f.nameAt clock))

/-- The number of characters of the times in the names of the log's files. -/
def stampLength (f : LogFile) : Nat :=
  match f.rotation with
  | .hourly => 13
  | .daily | .never => 10

/-- Whether a file in the directory is one of the log's files. A log without a name of its own goes by
the times alone. -/
def isOwn (f : LogFile) (name : Name) : Bool :=
  match Text.Utf8.decode name with
  | .ok s =>
      if f.fileName.isEmpty then
        s.length = f.stampLength && s.toList.all fun c => Text.isDigit c || c == '-'
      else f.fileName.toList.isPrefixOf s.toList
  | .error _ => false

/-- The complaint about a directory that cannot be listed. -/
def listingComplaint (e : IoError) : String :=
  "Error reading the log directory/files: " ++ e.message ++ "\n"

/-- The oldest files, which make room for a new one. -/
def surplus (f : LogFile) (fs : Files) : Except IoError (List Key) := do
  let names ← fs.list (.ofString f.directory)
  let (key, _) ← (fs.stat (.ofString f.directory)).mapError IoError.os
  let own := names.filter fun name =>
    f.isOwn name && match fs.tree.get? (key ++ [name]) with
      | some (.file ..) => true
      | _ => false
  let count := if own.length < f.maxFiles then 0 else own.length - (f.maxFiles - 1)
  return (own.take count).map fun name => key ++ [name]

/-- Removes the oldest files, so that a new one can be added. -/
def prune (f : LogFile) (fs : Files) (console : Console) : Files × Console :=
  match f.surplus fs with
  | .ok keys => (keys.foldl Files.remove fs, console)
  | .error e => (fs, console.complain (listingComplaint e))

/-- The failure to make a file that a system call reports. -/
def ioError (p : Path) (errno : Errno) : IoError :=
  if p.hasNul then .other "file name contained an unexpected NUL byte" else .os errno

/-- Opens the file of a path, and makes the directories above it if that fails. -/
def openPath (p : Path) (fs : Files) : Except SetupError Files :=
  match fs.openOrCreate p with
  | .ok (_, _, _, fs) => .ok fs
  | .error errno =>
      match Files.parentPath? p with
      | none => .error (.fileNotMade (ioError p errno))
      | some parent =>
          match fs.makeDirectories parent with
          | .error errno => .error (.directoryNotMade (ioError parent errno))
          | .ok fs =>
              match fs.openOrCreate p with
              | .ok (_, _, _, fs) => .ok fs
              | .error errno => .error (.fileNotMade (ioError p errno))

def begin (f : LogFile) (clock : Clock) (fs : Files) (console : Console) :
    Except SetupError Files × Files × Console :=
  let (fs, console) := f.prune fs console
  match openPath (f.pathAt clock) fs with
  | .ok opened => (.ok opened, opened, console)
  | .error e => (.error e, fs, console)

end LogFile

/-- The kernel's log. -/
def kernelLogPath : String := "/dev/kmsg"

/-- The complaint about a kernel's log that cannot be opened. -/
def kernelLogComplaint (e : IoError) : String :=
  "netbpfload: cannot open " ++ kernelLogPath ++ ": " ++ e.message ++ ", logging to stderr\n"

namespace Channel

/-- Opens a channel. The standard error output stands in for a kernel's log that cannot be opened. -/
def opened (c : Channel) (clock : Clock) (fs : Files) (console : Console) :
    Except SetupError Channel × Files × Console :=
  match c.target with
  | .stderr | .stdout | .removed => (.ok c, fs, console)
  | .kernelLog =>
      match fs.openForWriting (.ofString kernelLogPath) with
      | .ok _ => (.ok c, fs, console)
      | .error e => (.ok { c with target := .stderr }, fs, console.complain (kernelLogComplaint e))
  | .file f =>
      match f.begin clock fs console with
      | (.ok _, fs, console) => (.ok c, fs, console)
      | (.error e, fs, console) => (.error e, fs, console)

/-- The path of the file that a channel writes to. -/
def path? (c : Channel) (clock : Clock) : Option Path :=
  match c.target with
  | .stderr | .stdout | .removed => none
  | .kernelLog => some (.ofString kernelLogPath)
  | .file f => some (f.pathAt clock)

/-- The files that are removed when the channel is opened. -/
def surplus (c : Channel) (fs : Files) : List Key :=
  match c.target with
  | .file f => (f.surplus fs).toOption.getD []
  | .stderr | .stdout | .kernelLog | .removed => []

/-- An open channel after files were removed, `fs` being the files before. -/
def without (c : Channel) (keys : List Key) (clock : Clock) (fs : Files) : Channel :=
  match (c.path? clock).map fs.stat with
  | some (.ok (key, _)) => if keys.contains key then { c with target := .removed } else c
  | _ => c

/-- Writes events to an open channel. Nobody sees what is written to a file that was removed. -/
def write (c : Channel) (clock : Clock) (events : List Event) (fs : Files) (console : Console) :
    Files × Console :=
  let text := String.join (events.map (c.format.line clock.time))
  match c.target, c.path? clock with
  | .stderr, _ => (fs, console.complain text)
  | .stdout, _ => (fs, console.print text)
  | _, some p => ((fs.extend p (Text.Utf8.encode text)).toOption.getD fs, console)
  | _, none => (fs, console)

end Channel

/-- Opens the channel of an entry, if there is one and it is enabled. -/
def openEntry (entry : Option LogEntry) (clock : Clock) (fs : Files) (console : Console) :
    Except SetupError (Option Channel) × Files × Console :=
  match channelOf? entry with
  | .error e => (.error (.config e), fs, console)
  | .ok none => (.ok none, fs, console)
  | .ok (some c) =>
      match c.opened clock fs console with
      | (.ok c, fs, console) => (.ok (some c), fs, console)
      | (.error e, fs, console) => (.error e, fs, console)

/-- The logs of a run: its channels, and what they admit. -/
structure Logs where
  channels : Channels
  filter : Filter
  deriving DecidableEq, Repr

namespace Logs

/-- Opens the channels of a configuration, the default one first, and reads the filter. -/
def setUp (config : LogsConfig) (filter : String) (clock : Clock) (fs : Files) (console : Console) :
    Except SetupError Logs × Files × Console :=
  match openEntry (some config.default) clock fs console with
  | (.error e, fs, console) => (.error e, fs, console)
  | (.ok default, fs, console) =>
      match openEntry config.errors clock fs console with
      | (.error e, fs, console) => (.error e, fs, console)
      | (.ok errors, fs', console) =>
          -- The log that was opened first may be one of the old files that make room for the second one.
          let removed := (errors.map (·.surplus fs)).getD []
          let default := default.map (·.without removed clock fs)
          let (filter, complaints) := Filter.parse filter
          let console := complaints.foldl (fun c line => c.complain (line ++ "\n")) console
          (.ok ⟨⟨default, errors⟩, filter⟩, fs', console)

/-- Writes events to the channel that gets them, if any does. -/
def writeTo (channel : Option Channel) (clock : Clock) (events : List Event) (fs : Files)
    (console : Console) : Files × Console :=
  match channel with
  | some c => c.write clock events fs console
  | none => (fs, console)

/-- Writes all events of a run. -/
def write (logs : Logs) (clock : Clock) (events : List Event) (fs : Files) (console : Console) :
    Files × Console :=
  let admitted := events.filter logs.filter.admits
  let (fs, console) :=
    writeTo logs.channels.default clock (logs.channels.defaultEvents admitted) fs console
  writeTo logs.channels.errors clock (logs.channels.errorEvents admitted) fs console

end Logs

end BpfBoot.Log
