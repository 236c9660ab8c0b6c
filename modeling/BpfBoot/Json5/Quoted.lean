import BpfBoot.Json5.Character

/-!
# JSON5 strings and names

Within quotes, and in names, a character can be written by its code; above U+FFFF that takes two codes, a
high and a low surrogate. Two of them write only characters of planes with odd numbers.
-/

namespace BpfBoot.Json5

open Text

/-- A piece of a string: a character, or a code that is written in base sixteen. -/
inductive Piece where
  | character (c : Char)
  | code (n : Nat)
  deriving DecidableEq, Repr

/-- Whether a code is the first of two. -/
def isHighSurrogate (n : Nat) : Bool := 0xd800 ≤ n && n < 0xdc00

/-- Whether a code is the second of two. -/
def isLowSurrogate (n : Nat) : Bool := 0xdc00 ≤ n && n < 0xe000

/-- The character that two surrogates write: ten bits of each in a row, with the bit of U+10000 set. That
bit is not carried, so the characters of a plane with an even number stand for those of the plane before. -/
def ofSurrogates (high low : Nat) : Char :=
  Char.ofNat ((high - 0xd800) * 0x400 ||| (low - 0xdc00) ||| 0x10000)

/-- The text that pieces stand for; a surrogate that stands alone is an error. -/
def joinPieces? : List Piece → Option (List Char)
  | [] => some []
  | .character c :: rest => (joinPieces? rest).map (c :: ·)
  | .code n :: .code m :: rest =>
      if isHighSurrogate n then
        if isLowSurrogate m then (joinPieces? rest).map (ofSurrogates n m :: ·) else none
      else if isLowSurrogate n then none
      else (joinPieces? (.code m :: rest)).map (Char.ofNat n :: ·)
  | .code n :: rest =>
      if isHighSurrogate n || isLowSurrogate n then none
      else (joinPieces? rest).map (Char.ofNat n :: ·)

/-- The code that digits in base sixteen write, if they are such digits. -/
def codeOf? (digits : List Char) : Option Nat :=
  if digits.all isHexDigit then some (numeralValue 16 digits) else none

/-- What a character after a backslash stands for, if it is no digit and starts no code. -/
def escaped (c : Char) : Char :=
  match c with
  | 'b' => '\x08'
  | 'f' => '\x0c'
  | 'n' => '\n'
  | 'r' => '\r'
  | 't' => '\t'
  | 'v' => '\x0b'
  | _ => c

/-- Reads what follows a backslash. A line that ends there goes on in the next one. -/
def readEscape? (s : List Char) : Option (List Piece × List Char) :=
  match s with
  | [] => none
  | 'x' :: a :: b :: rest => (codeOf? [a, b]).map fun n => ([.character (Char.ofNat n)], rest)
  | 'u' :: a :: b :: c :: d :: rest => (codeOf? [a, b, c, d]).map fun n => ([.code n], rest)
  | '0' :: rest => some ([.character '\x00'], rest)
  | '\r' :: '\n' :: rest => some ([], rest)
  | c :: rest =>
      if endsLine c then some ([], rest)
      else if c == 'x' || c == 'u' || isDigit c then none
      else some ([.character (escaped c)], rest)

/-- Reads the pieces of a string up to its quote. -/
def readPieces? (quote : Char) : Nat → List Char → Option (List Piece × List Char)
  | 0, _ => none
  | fuel + 1, s =>
      match s with
      | [] => none
      | c :: rest =>
          if c == quote then some ([], rest)
          else if c == '\\' then do
            let (piece, rest) ← readEscape? rest
            let (pieces, rest) ← readPieces? quote fuel rest
            return (piece ++ pieces, rest)
          else if endsLine c then none
          else do
            let (pieces, rest) ← readPieces? quote fuel rest
            return (.character c :: pieces, rest)

/-- Reads a string whose quote was read. -/
def readString? (quote : Char) (s : List Char) : Option (String × List Char) := do
  let (pieces, rest) ← readPieces? quote (s.length + 1) s
  let chars ← joinPieces? pieces
  return (String.ofList chars, rest)

def readNameChar? (allowed : Char → Bool) (s : List Char) : Option (Piece × List Char) :=
  match s with
  | '\\' :: 'u' :: a :: b :: c :: d :: rest => (codeOf? [a, b, c, d]).map fun n => (.code n, rest)
  | c :: rest => if allowed c then some (.character c, rest) else none
  | [] => none

def readNameRest : Nat → List Char → List Piece × List Char
  | 0, s => ([], s)
  | fuel + 1, s =>
      match readNameChar? continuesName s with
      | some (piece, rest) =>
          let (pieces, rest) := readNameRest fuel rest
          (piece :: pieces, rest)
      | none => ([], s)

def readName? (s : List Char) : Option (String × List Char) := do
  let (first, rest) ← readNameChar? startsName s
  let (pieces, rest) := readNameRest rest.length rest
  let chars ← joinPieces? (first :: pieces)
  return (String.ofList chars, rest)

/-- Reads the key of a member: a string or a name. -/
def readKey? (s : List Char) : Option (String × List Char) :=
  match s with
  | '"' :: rest => readString? '"' rest
  | '\x27' :: rest => readString? '\x27' rest
  | _ => readName? s

end BpfBoot.Json5
