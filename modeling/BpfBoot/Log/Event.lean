/-!
# Log events

The loader reports what it does as events. An event belongs to a target; failures that somebody has to
look at go to the target `error`, which can be written to a channel of its own.
-/

namespace BpfBoot.Log

/-- How serious an event is. -/
inductive Level where
  | error
  | warn
  | info
  | debug
  deriving DecidableEq, Repr

namespace Level

def label : Level → String
  | .error => "ERROR"
  | .warn => "WARN"
  | .info => "INFO"
  | .debug => "DEBUG"

/-- The rank of the level; a filter that admits a rank admits all lower ones. -/
def rank : Level → Nat
  | .error => 1
  | .warn => 2
  | .info => 3
  | .debug => 4

end Level

/-- Something that the loader reports. -/
structure Event where
  level : Level
  target : String
  message : String
  deriving DecidableEq, Repr

/-- The target of failures that somebody has to look at. -/
def errorTarget : String := "error"

/-- A failure on the error channel. -/
def failure (message : String) : Event :=
  ⟨.error, errorTarget, message⟩

end BpfBoot.Log
