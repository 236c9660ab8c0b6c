import BpfBoot.File.Tree

/-!
# The files that a process sees

A process has a working directory and a file mode creation mask beside the tree of files. The
operations here are the system calls that the loader makes, as functions on that state; an operation
that fails leaves the state alone, so it gives back only the error number.
-/

namespace BpfBoot

/-- The files of the machine as one process sees them. -/
structure Files where
  tree : FileTree
  cwd : Key
  /-- The permission bits that new files do not get. -/
  umask : Nat
  deriving Repr

namespace Files

/-- The permission bits of a mode, with the set-ID bits and the sticky bit. -/
def modeMask : Nat := 0o7777

/-- The set-group-ID bit, which new directories take from their parent. -/
def setGroupId : Nat := 0o2000

/-- The bits that may be executed by somebody. -/
def anyExecute : Nat := 0o111

/-- Sets the file mode creation mask. The mask before is given back, so that it can be set again. -/
def setUmask (fs : Files) (mask : Nat) : Nat × Files :=
  (fs.umask, { fs with umask := mask })

/-- The bits of `mode` that are not in the mask. -/
def maskMode (mode mask : Nat) : Nat :=
  mode &&& (modeMask - mask % (modeMask + 1))

/-- The entry that a path leads to, symbolic links followed. -/
def stat (fs : Files) (p : Path) : Except Errno (Key × Entry) := do
  if p.hasNul then throw .einval
  match ← fs.tree.resolve fs.cwd p true with
  | .present key entry => return (key, entry)
  | .absent _ _ => throw .enoent

/-- Whether a path leads anywhere, failures taken as no. -/
def leadsToEntry (fs : Files) (p : Path) : Bool :=
  match fs.stat p with
  | .ok _ => true
  | .error _ => false

def leadsToDirectory (fs : Files) (p : Path) : Bool :=
  match fs.stat p with
  | .ok (_, entry) => entry.isDirectory
  | .error _ => false

def leadsToFile (fs : Files) (p : Path) : Bool :=
  match fs.stat p with
  | .ok (_, .file ..) => true
  | _ => false

/-- The path without the slashes at its end, unless it has nothing else. -/
def withoutFinalSlashes (p : Path) : Path :=
  let kept := (p.bytes.reverse.dropWhile (· == Path.slash)).reverse
  if kept.isEmpty then p else ⟨kept⟩

/-- The permission bits of a new directory below `parent`. -/
def newDirectoryMode (fs : Files) (parent : Key) (mode : Nat) : Nat :=
  let inherited := match fs.tree.get? parent with
    | some entry => entry.mode &&& setGroupId
    | none => 0
  maskMode (mode &&& 0o1777) fs.umask ||| inherited

/-- Makes a directory. Whatever stands under the path, even a symbolic link that leads nowhere, is in
the way. -/
def makeDirectory (fs : Files) (p : Path) (mode : Nat) : Except Errno Files := do
  if p.hasNul then throw .einval
  if FileTree.pathLengthBound ≤ p.bytes.length then throw .enametoolong
  match ← fs.tree.resolve fs.cwd (withoutFinalSlashes p) false with
  | .present _ _ => throw .eexist
  | .absent dir name =>
      return { fs with
        tree := fs.tree.insert (dir ++ [name]) (.directory (fs.newDirectoryMode dir mode)) }

def read (fs : Files) (p : Path) : Except IoError Bytes :=
  if p.hasNul then .error (.other "file name contained an unexpected NUL byte")
  else
    match fs.stat p with
    | .ok (_, .file _ data) => .ok data
    | .ok _ => .error (.os .eisdir)
    | .error errno => .error (.os errno)

def list (fs : Files) (p : Path) : Except IoError (List Name) :=
  if p.hasNul then .error (.other "file name contained an unexpected NUL byte")
  else
    match fs.stat p with
    | .ok (key, .directory _) => .ok (fs.tree.children key)
    | .ok _ => .error (.os .enotdir)
    | .error errno => .error (.os errno)

/-- The key of an existing file that is opened for writing, with its mode and contents. -/
def openForWriting (fs : Files) (p : Path) : Except IoError (Key × Nat × Bytes) :=
  if p.hasNul then .error (.other "file name contained an unexpected NUL byte")
  else
    match fs.stat p with
    | .ok (key, .file mode data) => .ok (key, mode, data)
    | .ok _ => .error (.os .eisdir)
    | .error errno => .error (.os errno)

/-- The state after `data` was written over the start of a file. -/
def overwrite (fs : Files) (p : Path) (data : Bytes) : Files :=
  match fs.openForWriting p with
  | .ok (key, mode, old) =>
      { fs with tree := fs.tree.insert key (.file mode (data ++ old.drop data.length)) }
  | .error _ => fs

/-- Opens a file for writing and makes it if it does not exist. -/
def openOrCreate (fs : Files) (p : Path) : Except Errno (Key × Nat × Bytes × Files) := do
  if p.hasNul then throw .einval
  match ← fs.tree.resolve fs.cwd p true with
  | .present key (.file mode data) => return (key, mode, data, fs)
  | .present _ _ => throw .eisdir
  | .absent dir name =>
      let key := dir ++ [name]
      let mode := maskMode 0o666 fs.umask
      let made := { fs with tree := fs.tree.insert key (.file mode []) }
      -- A slash behind the name, in the path or in a link on the way, asks for a directory.
      if made.leadsToFile p then return (key, mode, [], made) else throw .eisdir

/-- Replaces the contents of a file, which is made if it does not exist. -/
def write (fs : Files) (p : Path) (data : Bytes) : Except Errno Files := do
  let (key, mode, _, fs) ← fs.openOrCreate p
  return { fs with tree := fs.tree.insert key (.file mode data) }

/-- Adds to the end of a file, which is made if it does not exist. -/
def append (fs : Files) (p : Path) (data : Bytes) : Except Errno Files := do
  let (key, mode, old, fs) ← fs.openOrCreate p
  return { fs with tree := fs.tree.insert key (.file mode (old ++ data)) }

/-- Adds to the end of a file that exists. -/
def extend (fs : Files) (p : Path) (data : Bytes) : Except IoError Files := do
  let (key, mode, old) ← fs.openForWriting p
  return { fs with tree := fs.tree.insert key (.file mode (old ++ data)) }

/-- Gives the file or directory under a path new permission bits. -/
def changeMode (fs : Files) (p : Path) (mode : Nat) : Except Errno Files := do
  match ← fs.stat p with
  | (key, .file _ data) => return { fs with tree := fs.tree.insert key (.file (mode &&& modeMask) data) }
  | (key, .directory _) =>
      return { fs with tree := fs.tree.insert key (.directory (mode &&& modeMask)) }
  | (_, .symlink _) => throw .eloop

/-- The path of the directory that holds the last name, if there is more than one name. -/
def parentPath? (p : Path) : Option Path :=
  let names := p.names
  if names.length ≤ 1 && !p.isAbsolute then none
  else if names.isEmpty then none
  else
    let joined := names.dropLast.flatMap fun name => name ++ [Path.slash]
    some ⟨if p.isAbsolute then Path.slash :: joined else joined⟩

/-- Makes a directory and the directories above it that do not exist. -/
def makeDirectories (fs : Files) (p : Path) : Except Errno Files :=
  go (p.names.length + 1) fs p
where
  go : Nat → Files → Path → Except Errno Files
    | 0, fs, _ => .ok fs
    | fuel + 1, fs, p =>
        if p.bytes.isEmpty then .ok fs
        else
          match fs.makeDirectory p 0o777 with
          | .ok fs => .ok fs
          | .error errno =>
              if errno == .enoent then
                match parentPath? p with
                | some parent =>
                    match go fuel fs parent with
                    | .ok fs =>
                        match fs.makeDirectory p 0o777 with
                        | .ok fs => .ok fs
                        | .error errno =>
                            if fs.leadsToDirectory p then .ok fs else .error errno
                    | .error errno => .error errno
                | none => .error errno
              else if fs.leadsToDirectory p then .ok fs
              else .error errno

def remove (fs : Files) (key : Key) : Files :=
  { fs with tree := fs.tree.erase key }

end Files

end BpfBoot
