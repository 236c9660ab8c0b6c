/-!
# The command line

The loader takes at most one word, `done`, by which the platform's loader calls it a second time, and
the option `--config-dir` with a value. A value is looked at when the next argument makes clear that it
is complete, so of two mistakes the one that is noticed first is reported.
-/

namespace BpfBoot

structure CommandLine where
  /-- Whether this is the second call, which marks all programs as loaded. -/
  done : Bool
  configDir : Option String
  deriving DecidableEq, Repr

/-- Why a command line is not carried out. -/
inductive UsageError where
  /-- A value is missing, or it is none of those that may stand there. -/
  | invalidValue
  | unknownArgument
  /-- An option that was given twice. -/
  | repeated
  /-- A value for an option that takes none. -/
  | unexpectedValue
  | help
  deriving DecidableEq, Repr

/-- The exit status that a command line gives which is not carried out. It is never 2, by which the init
process recognises a critical failure. -/
def UsageError.exitCode : UsageError → Nat
  | .help => 0
  | _ => 1

namespace CommandLine

/-- An argument whose value is not yet looked at. -/
inductive Pending where
  /-- The option for the directory of the configuration, with its value if that has come. -/
  | configDir (value : Option String)
  | word (value : String)
  deriving DecidableEq, Repr

/-- How far a command line is read. -/
structure Reading where
  result : CommandLine
  pending : Option Pending
  /-- Whether the place of the word is taken. -/
  hasWord : Bool
  deriving DecidableEq, Repr

def Reading.start : Reading :=
  ⟨⟨false, none⟩, none, false⟩

def doneWord : String := "done"

/-- Looks at the value that is pending. -/
def Reading.settle (r : Reading) : Except UsageError Reading :=
  match r.pending with
  | none => .ok r
  | some (.configDir none) => .error .invalidValue
  | some (.configDir (some dir)) =>
      if r.result.configDir.isSome then .error .repeated
      else .ok { r with result := { r.result with configDir := some dir }, pending := none }
  | some (.word w) =>
      if w == doneWord then .ok { r with result := { r.result with done := true }, pending := none }
      else .error .invalidValue

inductive Argument where
  /-- The argument after which there are no options. -/
  | separator
  | long (name : List Char) (value : Option String)
  | short (letters : List Char)
  | plain (word : String)
  deriving DecidableEq, Repr

def Argument.ofString (s : String) : Argument :=
  match s.toList with
  | ['-', '-'] => .separator
  | '-' :: '-' :: rest =>
      match rest.dropWhile (· != '=') with
      | [] => .long rest none
      | _ :: value => .long (rest.takeWhile (· != '=')) (some (String.ofList value))
  | ['-'] => .plain s
  | '-' :: letters => .short letters
  | _ => .plain s

/-- The name of the option for the directory of the configuration. -/
def configDirName : List Char := "config-dir".toList

def helpName : List Char := "help".toList

def helpLetter : Char := 'h'

/-- Asks for help, once what is pending is settled. -/
def askHelp (r : Reading) : Except UsageError Reading :=
  match r.settle with
  | .ok _ => .error .help
  | .error e => .error e

/-- Reads a long option. A value after an equals sign is complete, so it is looked at immediately. -/
def readLong (r : Reading) (name : List Char) (value : Option String) :
    Except UsageError Reading :=
  if name == configDirName then do
    let begun : Reading := { ← r.settle with pending := some (.configDir value) }
    if value.isSome then begun.settle else .ok begun
  else if name == helpName then
    match value with
    | some _ => .error .unexpectedValue
    | none => askHelp r
  else .error .unknownArgument

/-- Reads letters after a single dash. -/
def readShort (r : Reading) (letters : List Char) : Except UsageError Reading :=
  if letters.head? == some helpLetter then askHelp r else .error .unknownArgument

def readWord (r : Reading) (word : String) : Except UsageError Reading :=
  if r.hasWord then .error .unknownArgument
  else
    match r.settle with
    | .ok r => .ok { r with pending := some (.word word), hasWord := true }
    | .error e => .error e

/-- Reads arguments among which there are no options. -/
def readWords (r : Reading) : List String → Except UsageError Reading
  | [] => r.settle
  | word :: rest => do readWords (← readWord r word) rest

def readAll (r : Reading) : List String → Except UsageError Reading
  | [] => r.settle
  | arg :: rest =>
      match Argument.ofString arg with
      | .separator => readWords r rest
      | .long name value => do readAll (← readLong r name value) rest
      | .short letters => do readAll (← readShort r letters) rest
      | .plain word =>
          match r.pending with
          | some (.configDir none) =>
              readAll { r with pending := some (.configDir (some word)) } rest
          | _ => do readAll (← readWord r word) rest

/-- Reads the arguments after the name of the program. -/
def parse (args : List String) : Except UsageError CommandLine := do
  return (← readAll .start args).result

def usage : String :=
  "Network BPF loader\n\n"
    ++ "Usage: netbpfload [OPTIONS] [STAGE]\n\n"
    ++ "Arguments:\n"
    ++ "  [STAGE]\n"
    ++ "          Possible values:\n"
    ++ "          - done: Re-entry from the platform loader: mark programs as loaded\n\n"
    ++ "Options:\n"
    ++ "      --config-dir <DIR>\n"
    ++ "          Directory holding netbpfload.json5\n\n"
    ++ "  -h, --help\n"
    ++ "          Print help (see a summary with '-h')\n"

end CommandLine

namespace UsageError

/-- What is wrong with the command line. -/
def message : UsageError → String
  | .invalidValue => "a value is missing or is not allowed"
  | .unknownArgument => "an argument is not known or one too many"
  | .repeated => "an option is given twice"
  | .unexpectedValue => "an option takes no value"
  | .help => "help was asked for"

/-- The text that is shown instead of carrying out the command line. -/
def notice : UsageError → String
  | .help => CommandLine.usage
  | e => "error: " ++ e.message ++ "\n\nFor more information, try '--help'.\n"

end UsageError

end BpfBoot
