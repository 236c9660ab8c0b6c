import BpfBoot.Process
import BpfBoot.Text.Space

/-!
# System properties

Properties are named texts. They are read and set with two programs; a property whose program fails, or
whose value is blank, counts as absent.
-/

namespace BpfBoot

/-- Why a property was not set. -/
inductive PropertyError where
  | refused (name value : String) (code : Int)
  | notRun (program : String) (source : IoError)
  | failed (program status : String)
  deriving DecidableEq, Repr

namespace PropertyError

def message : PropertyError → String
  | .refused name value code =>
      "__system_property_set(" ++ name ++ ", " ++ value ++ ") -> " ++ Text.signedDecimal code
  | .notRun program source => program ++ " failed: " ++ source.message
  | .failed program status => program ++ " exited with " ++ status

def causes : PropertyError → List String
  | .notRun _ source => [source.message]
  | .refused .. | .failed .. => []

end PropertyError

/-- A store of properties in worlds of type `σ`. -/
structure PropertyStore (σ : Type) where
  get : String → σ → Option String × σ
  set : String → String → σ → Except PropertyError Unit × σ

namespace PropertyStore

/-- The program that prints a property. -/
def getProgram : String := "getprop"

/-- The program that sets a property. -/
def setProgram : String := "setprop"

/-- The value that a program printed, if it reports success. -/
def printedValue? (execution : Execution) : Option String :=
  if execution.status.isSuccess then
    match Text.Utf8.decode execution.output with
    | .ok s =>
        let value := Text.trim s
        if value.isEmpty then none else some value
    | .error _ => none
  else none

/-- The store that is read and written with programs. -/
def ofPrograms {σ : Type} (processes : Processes σ) : PropertyStore σ where
  get name world :=
    match processes.run (.ofString getProgram) [name] true world with
    | (.ok execution, world) => (printedValue? execution, world)
    | (.error _, world) => (none, world)
  set name value world :=
    match processes.run (.ofString setProgram) [name, value] false world with
    | (.ok execution, world) =>
        if execution.status.isSuccess then (.ok (), world)
        else (.error (.failed setProgram execution.status.message), world)
    | (.error source, world) => (.error (.notRun setProgram source), world)

end PropertyStore

end BpfBoot
