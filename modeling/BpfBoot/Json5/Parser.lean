import BpfBoot.Json5.Number
import BpfBoot.Json5.Quoted

/-!
# Reading JSON5

A document is one value between blanks and comments. The reader takes each text to at most one value.
-/

namespace BpfBoot.Json5

/-- What follows the end of a block comment, if it has one. -/
def afterBlockComment? : List Char → Option (List Char)
  | '*' :: '/' :: rest => some rest
  | _ :: rest => afterBlockComment? rest
  | [] => none

/-- The rest of a text from the first token on, after at most `fuel` blanks and comments. -/
def skipSome : (fuel : Nat) → List Char → List Char
  | 0, s => s
  | fuel + 1, s =>
      match s with
      | '/' :: '*' :: rest =>
          match afterBlockComment? rest with
          | some rest => skipSome fuel rest
          | none => s
      | '/' :: '/' :: rest => skipSome fuel (rest.dropWhile (!endsLine ·))
      | c :: rest => if isBlank c then skipSome fuel rest else s
      | [] => []

/-- The rest of a text from the first token on. -/
def skip (s : List Char) : List Char :=
  skipSome s.length s

mutual

/-- Reads a value that starts here. -/
def readValue? : (fuel : Nat) → List Char → Option (Value × List Char)
  | 0, _ => none
  | fuel + 1, s =>
      match s with
      | 'n' :: 'u' :: 'l' :: 'l' :: rest => some (.null, rest)
      | 't' :: 'r' :: 'u' :: 'e' :: rest => some (.boolean true, rest)
      | 'f' :: 'a' :: 'l' :: 's' :: 'e' :: rest => some (.boolean false, rest)
      | '"' :: rest => (readString? '"' rest).map fun (s, rest) => (.string s, rest)
      | '\x27' :: rest => (readString? '\x27' rest).map fun (s, rest) => (.string s, rest)
      | '\x7b' :: rest =>
          match skip rest with
          | '\x7d' :: rest => some (.object [], rest)
          | rest => (readMembers? fuel rest).map fun (members, rest) => (.object members, rest)
      | '[' :: rest =>
          match skip rest with
          | ']' :: rest => some (.array [], rest)
          | rest => (readElements? fuel rest).map fun (elements, rest) => (.array elements, rest)
      | _ => readNumber? s

/-- Reads the members of an object, of which the first starts here. -/
def readMembers? : (fuel : Nat) → List Char → Option (List (String × Value) × List Char)
  | 0, _ => none
  | fuel + 1, s => do
      let (key, rest) ← readKey? s
      let ':' :: rest := skip rest | none
      let (value, rest) ← readValue? fuel (skip rest)
      match skip rest with
      | '\x7d' :: rest => return ([(key, value)], rest)
      | ',' :: rest =>
          match skip rest with
          | '\x7d' :: rest => return ([(key, value)], rest)
          | rest => do
              let (members, rest) ← readMembers? fuel rest
              return ((key, value) :: members, rest)
      | _ => none

/-- Reads the elements of an array, of which the first starts here. -/
def readElements? : (fuel : Nat) → List Char → Option (List Value × List Char)
  | 0, _ => none
  | fuel + 1, s => do
      let (value, rest) ← readValue? fuel s
      match skip rest with
      | ']' :: rest => return ([value], rest)
      | ',' :: rest =>
          match skip rest with
          | ']' :: rest => return ([value], rest)
          | rest => do
              let (elements, rest) ← readElements? fuel rest
              return (value :: elements, rest)
      | _ => none

end

def parse? (text : String) : Option Value :=
  let s := skip text.toList
  match readValue? (2 * s.length + 1) s with
  | some (value, rest) => if (skip rest).isEmpty then some value else none
  | none => none

end BpfBoot.Json5
