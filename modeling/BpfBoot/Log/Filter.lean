import BpfBoot.Log.Event
import BpfBoot.Text.LetterCase
import BpfBoot.Text.Numeral
import BpfBoot.Text.Space

/-!
# Level filters

A filter is a list of directives. A directive admits events up to a level, for all targets or for those
that start with a given text; of the directives that apply to an event, the one with the longest such
text decides. An event that no directive applies to is dropped.
-/

namespace BpfBoot.Log

/-- The lowest ranks that are dropped: `0` admits nothing, `5` everything. -/
abbrev Threshold := Nat

/-- What a directive applies to. -/
inductive Scope where
  | everything
  /-- Targets that start with a text. -/
  | targets (start : String)
  /-- Events within spans; the loader opens none. -/
  | spans
  deriving DecidableEq, Repr

structure Directive where
  scope : Scope
  threshold : Threshold
  deriving DecidableEq, Repr

abbrev Filter := List Directive

/-- The names of thresholds, by rank. -/
def thresholdNames : List (String × Threshold) :=
  [("off", 0), ("error", 1), ("warn", 2), ("info", 3), ("debug", 4), ("trace", 5)]

/-- The threshold that a text writes, as a name or as a number. The empty text stands for errors. -/
def parseThreshold? (s : String) : Option Threshold :=
  match Text.natBelow? 6 s.toList with
  | some n => some n
  | none =>
      if s.isEmpty then some 1
      else (thresholdNames.find? fun (name, _) => Text.eqIgnoringAsciiCase name s).map Prod.snd

/-- The threshold of a directive that names none. -/
def everyLevel : Threshold := 5

/-- What is wrong with a directive. -/
def badDirective : String := "invalid filter directive"

/-- What is wrong with the level of a directive. -/
def badLevel : String :=
  "error parsing level filter: expected one of \"off\", \"error\", \"warn\", \"info\", \"debug\", "
    ++ "\"trace\", or a number 0-5"

/-- Whether a target can start with a character. -/
def startsTarget (c : Char) : Bool :=
  c == '-' || c == ':' || c == '_' || c.isAlphanum || 128 ≤ c.toNat

namespace Directive

def parse (s : String) : Except String Directive :=
  let s := (Text.trim s).toList
  match s with
  | [] => .error badDirective
  | c :: _ =>
      if s.contains '[' then
        if s.contains ']' then .ok ⟨.spans, everyLevel⟩ else .error badDirective
      else if !startsTarget c then .error badDirective
      else
        let target := String.ofList (s.takeWhile (· != '='))
        match s.dropWhile (· != '=') with
        | [] =>
            match parseThreshold? target with
            | some threshold => .ok ⟨.everything, threshold⟩
            | none => .ok ⟨.targets target, everyLevel⟩
        | _ :: [] => .ok ⟨.targets target, everyLevel⟩
        | _ :: level =>
            match parseThreshold? (String.ofList level) with
            | some threshold => .ok ⟨.targets target, threshold⟩
            | none => .error badLevel

def appliesTo (d : Directive) (target : String) : Bool :=
  match d.scope with
  | .everything => true
  | .targets start => start.toList.isPrefixOf target.toList
  | .spans => false

/-- How closely the directive describes the targets that it applies to. -/
def closeness (d : Directive) : Nat :=
  match d.scope with
  | .everything => 0
  | .targets start => start.length + 1
  | .spans => 0

end Directive

namespace Filter

/-- The texts between commas. -/
def pieces (s : String) : List String :=
  (go s.toList []).filter (!·.isEmpty)
where
  go : List Char → List Char → List String
    | [], piece => [String.ofList piece.reverse]
    | c :: rest, piece =>
        if c == ',' then String.ofList piece.reverse :: go rest [] else go rest (c :: piece)

/-- The filter with one directive, for events of a level or above it. -/
def atLevel (threshold : Threshold) : Filter :=
  [⟨.everything, threshold⟩]

/-- The filter without directives of its own: no debugging. -/
def standard : Filter := atLevel 3

/-- Reads a filter. Directives that cannot be read are left out and reported; if nothing is left, the
standard filter holds. -/
def parse (s : String) : Filter × List String :=
  let read := (pieces s).map fun piece => (piece, Directive.parse piece)
  let directives := read.filterMap fun (_, d) => d.toOption
  let complaints := read.filterMap fun (piece, d) =>
    match d with
    | .ok _ => none
    | .error reason => some ("ignoring `" ++ piece ++ "`: " ++ reason)
  (if directives.isEmpty then standard else directives, complaints)

/-- The closer of two directives; a later one replaces an earlier one that is as close. -/
def closer (chosen : Option Directive) (d : Directive) : Option Directive :=
  match chosen with
  | none => some d
  | some c => if c.closeness ≤ d.closeness then some d else some c

/-- The directive that decides about a target. -/
def decisive? (f : Filter) (target : String) : Option Directive :=
  (f.filter (·.appliesTo target)).foldl closer none

def admits (f : Filter) (e : Event) : Bool :=
  match decisive? f e.target with
  | some d => e.level.rank ≤ d.threshold
  | none => false

end Filter

end BpfBoot.Log
