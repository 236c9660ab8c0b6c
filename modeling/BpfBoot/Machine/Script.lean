import BpfBoot.Text.Numeral

/-!
# Shell scripts

The programs of a modelled machine are scripts in a part of the shell language: simple commands with
redirected output, loops over words and choices between patterns.
-/

namespace BpfBoot.Machine

/-- A piece of a word. -/
inductive Segment where
  | text (s : List Char) (quoted : Bool)
  | parameter (name : String) (quoted : Bool)
  deriving DecidableEq, Repr

/-- A word before its parameters are replaced. -/
abbrev Word := List Segment

inductive Stream where
  | out
  | err
  deriving DecidableEq, Repr

inductive Redirection where
  | toStream (source target : Stream)
  | toFile (source : Stream) (name : Word) (append : Bool)
  deriving DecidableEq, Repr

inductive Command where
  | simple (words : List Word) (redirections : List Redirection)
  /-- Runs a body for each of some words. -/
  | each (name : String) (words : List Word) (body : List Command)
      (redirections : List Redirection)
  /-- Runs the first body one of whose patterns fits a word. -/
  | choose (subject : Word) (branches : List (List Word × List Command))
      (redirections : List Redirection)
  deriving Repr

/-! ## Tokens -/

inductive Token where
  | word (w : Word)
  /-- The end of a command. -/
  | separator
  /-- The end of a branch. -/
  | branchEnd
  | bar
  | paren
  | redirect (source : Stream) (append : Bool)
  | duplicate (source target : Stream)
  deriving DecidableEq, Repr

/-- Whether a character ends a word. -/
def endsWord (c : Char) : Bool :=
  c == ' ' || c == '\t' || c == '\n' || c == ';' || c == ')' || c == '(' || c == '>' || c == '|'
    || c == '&' || c == '<'

/-- Whether a character may stand in the name of a parameter. -/
def isNameChar (c : Char) : Bool :=
  c.isAlphanum || c == '_'

/-- The parameters whose names are single marks. -/
def specialNames : List Char := ['#', '@', '*', '$', '?']

/-- Reads the parameter after a dollar sign. -/
def readParameter? (s : List Char) : Option (String × List Char) :=
  match s with
  | '\x7b' :: rest =>
      match rest.dropWhile (· != '\x7d') with
      | _ :: after => some (String.ofList (rest.takeWhile (· != '\x7d')), after)
      | [] => none
  | c :: rest =>
      if specialNames.contains c || Text.isDigit c then some (String.ofList [c], rest)
      else
        match s.span isNameChar with
        | ([], _) => none
        | (name, rest) => some (String.ofList name, rest)
  | [] => none

/-- Reads what a dollar sign begins. -/
def readDollar (quoted : Bool) (s : List Char) : Segment × List Char :=
  match readParameter? s with
  | some (name, rest) => (.parameter name quoted, rest)
  | none => (.text ['$'] quoted, s)

/-- The characters that a backslash between double quotes makes literal. -/
def escapable : List Char := ['"', '\\', '$', '\x60']

/-- Reads segments up to the closing double quote. -/
def readDoubleQuoted : (fuel : Nat) → List Char → Word × List Char
  | 0, s => ([], s)
  | fuel + 1, s =>
      match s with
      | [] => ([], [])
      | '"' :: rest => ([], rest)
      | '$' :: rest =>
          let (segment, rest) := readDollar true rest
          let (word, rest) := readDoubleQuoted fuel rest
          (segment :: word, rest)
      | '\\' :: c :: rest =>
          let (word, rest) := readDoubleQuoted fuel rest
          (.text (if escapable.contains c then [c] else ['\\', c]) true :: word, rest)
      | c :: rest =>
          let (word, rest) := readDoubleQuoted fuel rest
          (.text [c] true :: word, rest)

/-- Reads the segments of a word. -/
def readWord : (fuel : Nat) → List Char → Word × List Char
  | 0, s => ([], s)
  | fuel + 1, s =>
      match s with
      | [] => ([], [])
      | '"' :: rest =>
          let (inner, rest) := readDoubleQuoted fuel rest
          let (word, rest) := readWord fuel rest
          (.text [] true :: inner ++ word, rest)
      | '\x27' :: rest =>
          let (word, after) := readWord fuel ((rest.dropWhile (· != '\x27')).drop 1)
          (.text (rest.takeWhile (· != '\x27')) true :: word, after)
      | '\\' :: c :: rest =>
          let (word, rest) := readWord fuel rest
          (.text [c] true :: word, rest)
      | '$' :: rest =>
          let (segment, rest) := readDollar false rest
          let (word, rest) := readWord fuel rest
          (segment :: word, rest)
      | c :: rest =>
          if endsWord c then ([], s)
          else
            let (word, rest) := readWord fuel rest
            (.text [c] false :: word, rest)

/-- Reads what follows the sign of a redirection. -/
def readRedirection (source : Stream) (s : List Char) : Token × List Char :=
  match s with
  | '&' :: '1' :: rest => (.duplicate source .out, rest)
  | '&' :: '2' :: rest => (.duplicate source .err, rest)
  | '>' :: rest => (.redirect source true, rest)
  | _ => (.redirect source false, s)

def tokens : (fuel : Nat) → List Char → List Token
  | 0, _ => []
  | fuel + 1, s =>
      match s with
      | [] => []
      | ' ' :: rest | '\t' :: rest => tokens fuel rest
      | '#' :: rest => tokens fuel (rest.dropWhile (· != '\n'))
      | '\n' :: rest => .separator :: tokens fuel rest
      | ';' :: ';' :: rest => .branchEnd :: tokens fuel rest
      | ';' :: rest => .separator :: tokens fuel rest
      | ')' :: rest => .paren :: tokens fuel rest
      | '|' :: rest => .bar :: tokens fuel rest
      | '(' :: rest | '&' :: rest | '<' :: rest => tokens fuel rest
      | '1' :: '>' :: rest | '>' :: rest =>
          let (token, rest) := readRedirection .out rest
          token :: tokens fuel rest
      | '2' :: '>' :: rest =>
          let (token, rest) := readRedirection .err rest
          token :: tokens fuel rest
      | _ =>
          let (word, rest) := readWord s.length s
          .word word :: tokens fuel rest

/-! ## Commands -/

/-- The keyword that a word is, if it is one: a word without quotes and parameters. -/
def keyword? : Word → Option String
  | [] => some ""
  | .text s false :: rest => (keyword? rest).map fun later => String.ofList s ++ later
  | _ => none

def Token.isKeyword (t : Token) (name : String) : Bool :=
  match t with
  | .word w => keyword? w == some name
  | _ => false

/-- The words up to the end of a command, and the rest. -/
def readWords : List Token → List Word × List Token
  | .word w :: rest =>
      let (words, rest) := readWords rest
      (w :: words, rest)
  | ts => ([], ts)

/-- Drops the separators at the start. -/
def dropSeparators (ts : List Token) : List Token :=
  ts.dropWhile (· == .separator)

def readRedirections : List Token → List Redirection × List Token
  | .redirect source append :: .word name :: rest =>
      let (later, rest) := readRedirections rest
      (.toFile source name append :: later, rest)
  | .duplicate source target :: rest =>
      let (later, rest) := readRedirections rest
      (.toStream source target :: later, rest)
  | ts => ([], ts)

/-- Reads the words and redirections of a simple command. -/
def readSimple : (fuel : Nat) → List Token → List Word × List Redirection × List Token
  | 0, ts => ([], [], ts)
  | fuel + 1, ts =>
      match ts with
      | .word w :: rest =>
          let (words, redirections, rest) := readSimple fuel rest
          (w :: words, redirections, rest)
      | .redirect source append :: .word name :: rest =>
          let (words, redirections, rest) := readSimple fuel rest
          (words, .toFile source name append :: redirections, rest)
      | .duplicate source target :: rest =>
          let (words, redirections, rest) := readSimple fuel rest
          (words, .toStream source target :: redirections, rest)
      | _ => ([], [], ts)

def readPatterns : List Token → List Word × List Token
  | .word w :: rest =>
      let (later, rest) := readPatterns rest
      (w :: later, rest)
  | .bar :: rest => readPatterns rest
  | .paren :: rest => ([], rest)
  | ts => ([], ts)

/-- The keywords that end a list of commands. -/
def closers : List String := ["done", "esac"]

mutual

/-- Reads commands up to a closing keyword or the end of a branch. -/
def readCommands : (fuel : Nat) → List Token → List Command × List Token
  | 0, ts => ([], ts)
  | fuel + 1, ts =>
      match dropSeparators ts with
      | [] => ([], [])
      | .branchEnd :: rest => ([], .branchEnd :: rest)
      | t :: rest =>
          if closers.any t.isKeyword then ([], t :: rest)
          else
            let (command, rest) := readCommand fuel (t :: rest)
            let (commands, rest) := readCommands fuel rest
            (command :: commands, rest)

def readCommand : (fuel : Nat) → List Token → Command × List Token
  | 0, ts => (.simple [] [], ts.drop 1)
  | fuel + 1, ts =>
      match ts with
      | [] => (.simple [] [], [])
      | t :: rest =>
          if t.isKeyword "for" then
            let (name, rest) := match rest with
              | .word w :: rest => ((keyword? w).getD "", rest)
              | rest => ("", rest)
            let (words, rest) := readWords (rest.drop 1)
            let (body, rest) := readCommands fuel ((dropSeparators rest).drop 1)
            let (redirections, rest) := readRedirections (rest.drop 1)
            (.each name words body redirections, rest)
          else if t.isKeyword "case" then
            let (subject, rest) := match rest with
              | .word w :: rest => (w, rest)
              | rest => ([], rest)
            let (branches, rest) := readBranches fuel (rest.drop 1)
            let (redirections, rest) := readRedirections (rest.drop 1)
            (.choose subject branches redirections, rest)
          else
            match readSimple ts.length ts with
            | ([], [], _) => (.simple [] [], rest)
            | (words, redirections, rest) => (.simple words redirections, rest)

def readBranches : (fuel : Nat) → List Token → List (List Word × List Command) × List Token
  | 0, ts => ([], ts)
  | fuel + 1, ts =>
      match dropSeparators ts with
      | [] => ([], [])
      | t :: rest =>
          if t.isKeyword "esac" then ([], t :: rest)
          else
            let (patterns, rest) := readPatterns (t :: rest)
            let (body, rest) := readCommands fuel rest
            let rest := match rest with
              | .branchEnd :: rest => rest
              | rest => rest
            let (branches, rest) := readBranches fuel rest
            ((patterns, body) :: branches, rest)

end

def parseScript (script : String) : List Command :=
  let chars := script.toList
  let ts := tokens (chars.length + 1) chars
  (readCommands (2 * ts.length + 2) ts).1

end BpfBoot.Machine
