import BpfBoot.Environment
import BpfBoot.File.System

/-!
# Finding programs

A program is a file that somebody may execute. The machine has no compiled programs: a file must begin
with a line that names its interpreter, which is one of the shells or again such a file.
-/

namespace BpfBoot.Machine

/-- A script, and how it is started. -/
structure Executable where
  name : Path
  script : Bytes
  /-- The arguments before those that the script is started with. -/
  leading : List Path
  deriving DecidableEq, Repr

namespace Executable

/-- The shells that run scripts. -/
def shells : List Path :=
  (["/bin/sh", "/bin/dash", "/bin/bash", "/usr/bin/sh", "/usr/bin/dash", "/usr/bin/bash"].map
    Path.ofString)

/-- The bytes that begin the line with the interpreter. -/
def marker : Bytes := [0x23, 0x21]

def lineEnd : UInt8 := 0x0a

/-- Whether a byte separates an interpreter from its argument. -/
def isBlank (b : UInt8) : Bool :=
  b == 0x20 || b == 0x09

/-- The interpreter that the first line names, with its argument if it has one. -/
def interpreter? (content : Bytes) : Option (Path × List Path) :=
  if marker.isPrefixOf content then
    let line := (content.drop marker.length).takeWhile (· != lineEnd)
    let line := (((line.dropWhile isBlank).reverse).dropWhile isBlank).reverse
    let name := line.takeWhile (!isBlank ·)
    let argument := (line.drop name.length).dropWhile isBlank
    if name.isEmpty then none
    else some (⟨name⟩, if argument.isEmpty then [] else [⟨argument⟩])
  else none

/-- The content of a file that may be executed. -/
def content (fs : Files) (p : Path) : Except Errno Bytes := do
  match ← fs.stat p with
  | (_, .file mode data) => if mode &&& Files.anyExecute = 0 then throw .eacces else return data
  | _ => throw .eacces

/-- The number of interpreters that may stand behind each other. -/
def depth : Nat := 5

/-- The program under a path, if at most `fuel` interpreters stand behind it. -/
def findWithin (fs : Files) : (fuel : Nat) → Path → Except Errno Executable
  | 0, _ => .error .eloop
  | fuel + 1, p => do
      let script ← content fs p
      match interpreter? script with
      | none => throw .enoexec
      | some (interpreter, argument) =>
          if shells.contains interpreter then return ⟨p, script, []⟩
          else
            let e ← findWithin fs fuel interpreter
            return { e with leading := e.leading ++ argument ++ [p] }

def find (fs : Files) (p : Path) : Except Errno Executable :=
  findWithin fs depth p

/-! ## The search path -/

/-- The name of the list of directories that hold programs. -/
def searchVariable : String := "PATH"

/-- The directories that are searched without that list. -/
def standardSearchPath : String := "/bin:/usr/bin"

/-- The byte between two directories of the list. -/
def colon : UInt8 := 0x3a

def searchPath (env : Environment) : List Path :=
  let value := (env.get? searchVariable).getD (Text.Utf8.encode standardSearchPath)
  (value.splitOn colon).map Path.mk

/-- The errors after which the search goes on. -/
def isPassing (errno : Errno) : Bool :=
  errno == .enoent || errno == .enotdir || errno == .eacces

/-- Searches directories for a program. `found` is the error so far: that of the last directory, or
that a file may not be executed. -/
def search (fs : Files) (name : Path) (found : Errno) : List Path → Except Errno Executable
  | [] => .error found
  | dir :: rest =>
      match find fs (dir.join name) with
      | .ok e => .ok e
      | .error errno =>
          if isPassing errno then
            search fs name (if found == .eacces then found else errno) rest
          else .error errno

/-- The program that a command means: a name without a slash is searched for. -/
def ofCommand (fs : Files) (env : Environment) (command : Path) : Except Errno Executable :=
  if command.bytes.isEmpty then .error .enoent
  else if command.bytes.contains Path.slash then find fs command
  else if FileTree.maxNameLength < command.bytes.length then .error .enametoolong
  else search fs command .enoent (searchPath env)

end Executable

end BpfBoot.Machine
