import BpfBoot.Settings.Tree
import BpfBoot.Text.Numeral

/-!
# Addresses in trees of settings

The key of a setting may be an address that leads into the tree: a name, and then names after points and
indices in brackets. A key that is no address is a name as a whole.
-/

namespace BpfBoot.Settings

inductive Step where
  | entry (name : String)
  | element (index : Int)
  deriving DecidableEq, Repr

structure Address where
  first : String
  steps : List Step
  deriving DecidableEq, Repr

namespace Address

/-- Whether a character may stand in a name. -/
def isNameChar (c : Char) : Bool :=
  c.isAlphanum || c == ' ' || c == '_' || c == '-'

/-- Whether a character may stand around an index. -/
def isPadding (c : Char) : Bool :=
  c == ' ' || c == '\t'

/-- Reads a name. -/
def readName? (s : List Char) : Option (String × List Char) :=
  match s.span isNameChar with
  | ([], _) => none
  | (name, rest) => some (String.ofList name, rest)

def indexBound : Nat := 0x8000000000000000

/-- Reads an index and the bracket after it. -/
def readIndex? (s : List Char) : Option (Int × List Char) :=
  let s := s.dropWhile isPadding
  let (negative, s) := match s with
    | '-' :: rest => (true, rest)
    | _ => (false, s)
  match s.span Text.isDigit with
  | ([], _) => none
  | (digits, rest) =>
      let n := Text.numeralValue 10 digits
      match rest.dropWhile isPadding with
      | ']' :: rest =>
          if n < indexBound then some (if negative then -Int.ofNat n else Int.ofNat n, rest) else none
      | _ => none

/-- Reads at most `fuel` steps, to the end of the text. -/
def readSteps? : (fuel : Nat) → List Char → Option (List Step)
  | _, [] => some []
  | 0, _ => none
  | fuel + 1, '.' :: rest => do
      let (name, rest) ← readName? rest
      return .entry name :: (← readSteps? fuel rest)
  | fuel + 1, '[' :: rest => do
      let (index, rest) ← readIndex? rest
      return .element index :: (← readSteps? fuel rest)
  | _ + 1, _ => none

/-- The address that a key writes. -/
def parse? (key : String) : Option Address := do
  let (first, rest) ← readName? key.toList
  return ⟨first, ← readSteps? rest.length rest⟩

def ofKey (key : String) : Address :=
  (parse? key).getD ⟨key, []⟩

end Address

namespace Tree

/-- The place of an index in an array; a negative one counts from the end. -/
def place (index : Int) (length : Nat) : Nat :=
  match index with
  | .ofNat i => i
  | .negSucc i => length - (i + 1)

/-- The elements with one of them replaced; the array is filled up with nothing before it. -/
def setElement (elements : List Tree) (i : Nat) (value : Tree) : List Tree :=
  if i < elements.length then elements.set i value
  else elements ++ List.replicate (i - elements.length) null ++ [value]

/-- The tree with a value put where the steps lead. -/
def putAt (root : Tree) (steps : List Step) (value : Tree) : Tree :=
  match steps with
  | [] => value
  | [.entry name] => root.put name value
  | .entry name :: rest =>
      let key := Text.lower name
      let inner := (root.entries.lookup key).getD null
      .table false (upsert key (inner.putAt rest value) root.entries)
  | .element index :: rest =>
      let (fromFile, elements) := match root with
        | .array fromFile elements => (fromFile, elements)
        | _ => (false, [])
      let i := place index elements.length
      let inner := (elements[i]?).getD null
      .array fromFile (setElement elements i (inner.putAt rest value))

/-- The tree with a value put under a key. -/
def putKey (root : Tree) (key : String) (value : Tree) : Tree :=
  let address := Address.ofKey key
  root.putAt (.entry address.first :: address.steps) value

/-- The tree with the entries of a file put under their keys. -/
def merge (root : Tree) (file : List (String × Tree)) : Tree :=
  file.foldl (fun t (key, value) => t.putKey key value) root

end Tree

end BpfBoot.Settings
