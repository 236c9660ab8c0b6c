import BpfBoot.File.System
import BpfBoot.Log.Event

/-!
# Pin directories

Maps and programs are pinned in directories below the root of the BPF file system. Such a directory is
open to everybody, with the sticky bit, so it is made with the file creation mask cleared; the mask is
put back before anything else happens.
-/

namespace BpfBoot

/-- A pin directory could not be made. -/
structure PinDirError where
  path : Path
  errno : Errno
  deriving DecidableEq, Repr

def PinDirError.message (e : PinDirError) : String :=
  "Failed to create directory: " ++ e.path.display ++ ", ret: " ++ e.errno.message

namespace PinDirs

def logTarget : String := "netbpfload::pindir"

/-- The permission bits of a pin directory. -/
def mode : Nat := 0o1777

def path (root : Path) (subdir : String) : Path :=
  root.join (.ofString subdir)

/-- Makes a directory with the file creation mask cleared, and puts the mask back whatever came of it. -/
def makeUnmasked (path : Path) (fs : Files) : Except Errno Unit × Files :=
  let (mask, cleared) := fs.setUmask 0
  let (result, tried) : Except Errno Unit × Files := match cleared.makeDirectory path mode with
    | .ok made => (.ok (), made)
    | .error errno => (.error errno, cleared)
  (result, (tried.setUmask mask).2)

/-- Makes sure that a pin directory exists. No name means no directory, and whatever exists under the
path already is left as it is. -/
def ensure (root : Path) (subdir : String) (fs : Files) :
    Except PinDirError Unit × List Log.Event × Files :=
  if subdir.isEmpty then (.ok (), [], fs)
  else
    let p := path root subdir
    match makeUnmasked p fs with
    | (.ok (), fs) => (.ok (), [⟨.debug, logTarget, "Created directory: " ++ p.display⟩], fs)
    | (.error errno, fs) =>
        if errno == .eexist then (.ok (), [], fs)
        else
          let e : PinDirError := ⟨p, errno⟩
          (.error e, [Log.failure e.message], fs)

end PinDirs

end BpfBoot
