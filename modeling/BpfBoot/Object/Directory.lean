import BpfBoot.Object.Loader

/-!
# Loading a directory

The object files of a directory are loaded in the byte order of their names, whatever the order of the
listing. A failure does not keep the later ones from being loaded; if critical objects failed, the
last such failure is the result.
-/

namespace BpfBoot.Object

open Log

/-- The names of the object files in a listing, in byte order. -/
def objectFileNames (listing : List Name) : List Name :=
  (listing.filter isObjectFile).mergeSort Name.le

namespace Directory

def logTarget : String := "netbpfload::loader"

def loadedEvent (p : Path) : Event :=
  ⟨.debug, logTarget, "Loaded object: " ++ p.display⟩

def failedEvent (p : Path) (critical : Bool) (e : ObjectError) : Event :=
  failure ("Failed to load object: " ++ p.display ++ ", critical: " ++ yesNo critical
    ++ ", ret: " ++ e.message)

/-- The event that reports a directory that cannot be listed. -/
def skippedEvent (dir : Path) (e : IoError) : Event :=
  ⟨.debug, logTarget, "Skipping " ++ dir.display ++ ": " ++ e.message⟩

variable {σ : Type}

/-- Loads one object file and reports what came of it. Gives back its failure if it is critical. -/
def loadOne (loader : ObjectLoader σ) (version : LoaderVersion) (location : Location) (p : Path) :
    Logged σ (Option ObjectError) := do
  let load ← follow (loader p version location)
  match load.result with
  | .ok () =>
      report (loadedEvent p)
      return none
  | .error e =>
      report (failedEvent p load.critical e)
      return if load.critical then some e else none

/-- Loads object files in turn. Gives back the last critical failure, or `last` if there is none. -/
def loadEach (loader : ObjectLoader σ) (version : LoaderVersion) (location : Location)
    (last : Option ObjectError) : List Path → Logged σ (Option ObjectError)
  | [] => return last
  | p :: rest => do
      let e ← loadOne loader version location p
      loadEach loader version location (e <|> last) rest

/-- Loads the object files among the names of a listing. -/
def loadListing (loader : ObjectLoader σ) (version : LoaderVersion) (location : Location)
    (listing : Except IoError (List Name)) : Logged σ (Except ObjectError Unit) := do
  let dir := Path.ofString location.dir
  match listing with
  | .error e =>
      report (skippedEvent dir e)
      return .ok ()
  | .ok names =>
      let paths := (objectFileNames names).map fun name => dir.join ⟨name⟩
      match ← loadEach loader version location none paths with
      | some e => return .error e
      | none => return .ok ()

/-- Loads the object files in the directory of a location. -/
def load (list : σ → Path → Except IoError (List Name)) (loader : ObjectLoader σ)
    (version : LoaderVersion) (location : Location) : Logged σ (Except ObjectError Unit) := do
  let listing ← look fun s => list s (.ofString location.dir)
  loadListing loader version location listing

end Directory

end BpfBoot.Object
