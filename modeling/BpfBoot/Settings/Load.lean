import BpfBoot.File.System
import BpfBoot.Json5.Parser
import BpfBoot.Settings.Address
import BpfBoot.Settings.Decode

/-!
# The configuration file

The settings are those of the configuration file, over the standard ones. Without a file that can be
read, the standard settings hold.
-/

namespace BpfBoot.Settings

/-- A text setting. -/
def textTree (s : String) : Tree := .scalar false (.string s)

/-- A natural number as a setting. -/
def naturalTree (n : Nat) : Tree := .scalar false (.integer (Int.ofNat n))

/-- The settings that hold where the file says nothing. -/
def defaults : List (String × Tree) :=
  [("logs.default.enable", .scalar false (.boolean standard.logs.default.enable)),
   ("logs.default.target", textTree standard.logs.default.target),
   ("loader.bpffs_root", textTree standard.loader.pinRoot),
   ("loader.platform_loader", textTree standard.loader.platformLoader),
   ("loader.hand_off", textTree standard.loader.handOff),
   ("loader.unprivileged_bpf_required_from", textTree standard.loader.unprivilegedRequiredFrom),
   ("loader.critical_failure_delay_secs", naturalTree standard.loader.criticalFailureDelay),
   ("loader.gsi_warning_delay_secs", naturalTree standard.loader.gsiWarningDelay)]

def defaultTree : Tree :=
  Tree.empty.merge defaults

/-- The entries of a document, which must be an object. -/
def parseEntries (file text : String) : Result (List (String × Tree)) :=
  match Json5.parse? text with
  | some (.object members) => .ok (Tree.ofValue (.object members)).entries
  | _ => .error (.notParsed file)

def parse (file text : String) : Result Settings := do
  ofTree file (defaultTree.merge (← parseEntries file text))

def withoutFile : Result Settings :=
  ofTree "" defaultTree

/-- The directory of the configuration file: the one that is given, or else the one that the environment
names. -/
def directory (given environment : Option String) : String :=
  let dir := given.getD (environment.getD defaultConfigDir)
  if dir.toList.getLast? == some '/' then dir else dir ++ "/"

/-- The ending that is tried if there is no file with the name itself. -/
def extraEnding : String := ".json5"

/-- The bytes of a regular file. -/
def regularFile? (fs : Files) (p : Path) : Option Bytes :=
  (fs.read p).toOption

/-- The configuration file and its bytes. -/
def findFile? (fs : Files) (dir : String) : Option (Path × Bytes) :=
  let here : Path := ⟨Path.slash :: ((fs.cwd.intersperse [Path.slash]).flatten)⟩
  let named (name : String) : Path := here.join (.ofString (dir ++ name))
  let candidates := [named configFileName, named (configFileName ++ extraEnding)]
  candidates.findSome? fun p => (regularFile? fs p).map fun data => (p, data)

def load (fs : Files) (given environment : Option String) : Result Settings :=
  match findFile? fs (directory given environment) with
  | none => withoutFile
  | some (p, data) =>
      match Text.Utf8.decode data with
      | .ok text => parse (p.relativeTo fs.cwd).display text
      | .error _ => withoutFile

end BpfBoot.Settings
