import BpfBoot.Log.Output
import BpfBoot.Machine.Script
import BpfBoot.Property

/-!
# Running shell scripts

A script runs in the files of a machine and writes to two streams, which lead to the terminal or to
files. Its loops run over words that are there before they begin, so every script ends.
-/

namespace BpfBoot.Machine

open Log

inductive Sink where
  | terminal (stream : Stream)
  | file (p : Path)
  | nowhere
  deriving DecidableEq, Repr

/-- Where both streams lead. -/
structure Sinks where
  out : Sink
  err : Sink
  deriving DecidableEq, Repr

/-- The sinks of a script that is started at the terminal. -/
def Sinks.terminal : Sinks :=
  ⟨.terminal .out, .terminal .err⟩

/-- The state of a running script. -/
structure Shell where
  files : Files
  console : Console
  name : String
  arguments : List String
  /-- The values of variables. -/
  bindings : List (String × String)
  /-- The exit status of the last command. -/
  status : Nat
  /-- How the script ended, once it has. -/
  ended : Option ExitStatus

namespace Shell

/-- The process that a script runs in, as the script sees it. -/
def processNumber : String := "1"

/-- The file that swallows what is written to it. -/
def nullDevice : String := "/dev/null"

def parameter (sh : Shell) (name : String) : String :=
  match name with
  | "0" => sh.name
  | "#" => Text.decimal sh.arguments.length
  | "@" | "*" => " ".intercalate sh.arguments
  | "$" => processNumber
  | "?" => Text.decimal sh.status
  | _ =>
      match Text.natBelow? 1000 name.toList with
      | some n => (sh.arguments[n - 1]?).getD ""
      | none => (sh.bindings.lookup name).getD ""

/-! ## Words -/

/-- The fields of a word while its segments are replaced: the complete ones, latest first, and the one
that is begun. -/
structure Fields where
  complete : List String
  begun : Option String

/-- Adds a text to the field that is begun. -/
def Fields.add (f : Fields) (s : String) : Fields :=
  { f with begun := some (f.begun.getD "" ++ s) }

/-- Completes the field that is begun. -/
def Fields.cut (f : Fields) : Fields :=
  match f.begun with
  | some s => ⟨s :: f.complete, none⟩
  | none => f

/-- Adds texts that are fields of their own, apart from the first and the last one. -/
def Fields.addAll (f : Fields) : List String → Fields
  | [] => f
  | [s] => f.add s
  | s :: rest => ((f.add s).cut).addAll rest

def Fields.addSegment (sh : Shell) (f : Fields) : Segment → Fields
  | .text s _ => f.add (String.ofList s)
  | .parameter "@" true => f.addAll sh.arguments
  | .parameter name true => f.add (sh.parameter name)
  | .parameter name false => f.addAll (Text.words (sh.parameter name))

/-- The fields that a word becomes. -/
def fields (sh : Shell) (w : Word) : List String :=
  let isAllArguments := w.contains (.parameter "@" true)
  let w := if isAllArguments then w.filter (· != .text [] true) else w
  (w.foldl (Fields.addSegment sh) ⟨[], none⟩).cut.complete.reverse

/-- The text that a word becomes where there is one field. -/
def single (sh : Shell) (w : Word) : String :=
  " ".intercalate (sh.fields w)

/-! ## Patterns -/

/-- A piece of a pattern. -/
inductive Glob where
  | any
  | one
  | exact (c : Char)
  deriving DecidableEq, Repr

/-- The pattern that a word is. -/
def pattern (sh : Shell) (w : Word) : List Glob :=
  w.flatMap fun segment =>
    match segment with
    | .text s false => s.map fun c => if c == '*' then .any else if c == '?' then .one else .exact c
    | .text s true => s.map .exact
    | .parameter name _ => (sh.parameter name).toList.map .exact

/-- Whether a text fits a pattern. -/
def fits : List Glob → List Char → Bool
  | [], s => s.isEmpty
  | .any :: rest, [] => fits rest []
  | .any :: rest, c :: s => fits rest (c :: s) || fits (.any :: rest) s
  | .one :: rest, _ :: s => fits rest s
  | .exact c :: rest, d :: s => c == d && fits rest s
  | _ :: _, [] => false
termination_by globs s => globs.length + s.length

/-! ## Output -/

def write (sh : Shell) (sink : Sink) (s : String) : Shell :=
  match sink with
  | .terminal .out => { sh with console := sh.console.print s }
  | .terminal .err => { sh with console := sh.console.complain s }
  | .file p => { sh with files := (sh.files.append p (Text.Utf8.encode s)).toOption.getD sh.files }
  | .nowhere => sh

def Sinks.get (sinks : Sinks) : Stream → Sink
  | .out => sinks.out
  | .err => sinks.err

/-- The sinks with one replaced. -/
def Sinks.set (sinks : Sinks) (stream : Stream) (sink : Sink) : Sinks :=
  match stream with
  | .out => { sinks with out := sink }
  | .err => { sinks with err := sink }

/-- Applies a redirection. A file is emptied first, unless output is added to it. -/
def redirect (state : Shell × Sinks) (r : Redirection) : Shell × Sinks :=
  let (sh, sinks) := state
  match r with
  | .toStream source target => (sh, Sinks.set sinks source (Sinks.get sinks target))
  | .toFile source name append =>
      let name := sh.single name
      if name == nullDevice then (sh, Sinks.set sinks source .nowhere)
      else
        let p := Path.ofString name
        let opened := if append then sh.files.append p [] else sh.files.write p []
        match opened with
        | .ok files => ({ sh with files }, Sinks.set sinks source (.file p))
        | .error _ => (sh, Sinks.set sinks source .nowhere)

/-! ## Commands -/

def finish (sh : Shell) (status : ExitStatus) : Shell :=
  { sh with ended := some status }

/-- The number that a signal is given by: itself or its name. -/
def signalNumber? (s : String) : Option Nat :=
  match Text.natBelow? 65 s.toList with
  | some n => some n
  | none => (ExitStatus.signalNames.find? fun (_, name) => name == s || name == "SIG" ++ s).map
      Prod.fst

def runSimple (sh : Shell) (sinks : Sinks) (words : List String) : Shell :=
  match words with
  | [] | "true" :: _ | ":" :: _ => { sh with status := 0 }
  | "false" :: _ => { sh with status := 1 }
  | "echo" :: "-n" :: rest => { sh.write sinks.out (" ".intercalate rest) with status := 0 }
  | "echo" :: rest => { sh.write sinks.out (" ".intercalate rest ++ "\n") with status := 0 }
  | "exit" :: rest =>
      let code := match rest.head? with
        | some n => Text.numeralValue 10 n.toList
        | none => sh.status
      sh.finish (.exited (code % 256))
  | ["kill", signal, target] =>
      match signalNumber? (String.ofList (signal.toList.drop 1)) with
      | some n => if target == processNumber then sh.finish (.killed n) else { sh with status := 1 }
      | none => { sh with status := 1 }
  | name :: _ =>
      { sh.write sinks.err (sh.name ++ ": " ++ name ++ ": not found\n") with status := 127 }

mutual

def runCommand (sh : Shell) (sinks : Sinks) (command : Command) : Shell :=
  match command with
  | .simple words redirections =>
      let (sh, sinks) := redirections.foldl redirect (sh, sinks)
      sh.runSimple sinks (words.flatMap sh.fields)
  | .each name words body redirections =>
      let items := words.flatMap sh.fields
      let (sh, sinks) := redirections.foldl redirect (sh, sinks)
      runEach sh sinks name body items
  | .choose subject branches redirections =>
      let (sh, sinks) := redirections.foldl redirect (sh, sinks)
      runBranches sh sinks (sh.single subject) branches
termination_by (sizeOf command, 0)

/-- Runs commands until the script ends. -/
def runCommands (sh : Shell) (sinks : Sinks) (commands : List Command) : Shell :=
  match commands with
  | [] => sh
  | command :: rest =>
      let sh := runCommand sh sinks command
      if sh.ended.isSome then sh else runCommands sh sinks rest
termination_by (sizeOf commands, 0)

/-- Runs a body for each of some words. -/
def runEach (sh : Shell) (sinks : Sinks) (name : String) (body : List Command)
    (items : List String) : Shell :=
  match items with
  | [] => sh
  | item :: rest =>
      let sh := { sh with bindings := (name, item) :: sh.bindings }
      let sh := runCommands sh sinks body
      if sh.ended.isSome then sh else runEach sh sinks name body rest
termination_by (sizeOf body, items.length + 1)

/-- Runs the first branch that fits. -/
def runBranches (sh : Shell) (sinks : Sinks) (subject : String)
    (branches : List (List Word × List Command)) : Shell :=
  match branches with
  | [] => { sh with status := 0 }
  | (patterns, body) :: rest =>
      if patterns.any fun w => fits (sh.pattern w) subject.toList then runCommands sh sinks body
      else runBranches sh sinks subject rest
termination_by (sizeOf branches, 0)

end

def runScript (sh : Shell) (script : String) : ExitStatus × Shell :=
  let sh := sh.runCommands .terminal (parseScript script)
  (sh.ended.getD (.exited sh.status), sh)

end Shell

end BpfBoot.Machine
