import BpfBoot.Json5.Value
import BpfBoot.Text.LetterCase

/-!
# Trees of settings

Settings form a tree of tables. A table that is put where there is one already is merged with it, entry
by entry; anything else replaces what was there. The names of entries are compared in small letters.
-/

namespace BpfBoot.Settings

/-- A setting that is no collection. -/
inductive Scalar where
  | null
  | boolean (b : Bool)
  | integer (i : Int)
  | float (x : Number.Binary64)
  | string (s : String)
  deriving DecidableEq, Repr

/-- A tree of settings. Each part remembers whether it stands in a file as it is. -/
inductive Tree where
  | scalar (fromFile : Bool) (value : Scalar)
  | array (fromFile : Bool) (elements : List Tree)
  | table (fromFile : Bool) (entries : List (String × Tree))
  deriving Repr

namespace Tree

def empty : Tree := .table false []

def null : Tree := .scalar false .null

/-- The entries of a table; anything else has none. -/
def entries : Tree → List (String × Tree)
  | .table _ entries => entries
  | _ => []

/-- The list of entries with an entry in place of the one with the same name. -/
def upsert (name : String) (value : Tree) : List (String × Tree) → List (String × Tree)
  | [] => [(name, value)]
  | (n, v) :: rest => if n == name then (n, value) :: rest else (n, v) :: upsert name value rest

/-- The tree of a JSON5 value in a file. Of two members with one key the later one counts. -/
def ofValue : Json5.Value → Tree
  | .null => .scalar true .null
  | .boolean b => .scalar true (.boolean b)
  | .integer i => .scalar true (.integer i)
  | .float x => .scalar true (.float x)
  | .string s => .scalar true (.string s)
  | .array elements => .array true (ofElements elements)
  | .object members => .table true (ofMembers members [])
where
  ofElements : List Json5.Value → List Tree
    | [] => []
    | v :: rest => ofValue v :: ofElements rest
  ofMembers : List (String × Json5.Value) → List (String × Tree) → List (String × Tree)
    | [], entries => entries
    | (key, v) :: rest, entries => ofMembers rest (upsert key (ofValue v) entries)

mutual

/-- The tree with a value put under a name. -/
def put (root : Tree) (name : String) (value : Tree) : Tree :=
  let key := Text.lower name
  match value with
  | .table _ incoming =>
      .table false (upsert key (putAll ((root.entries.lookup key).getD empty) incoming) root.entries)
  | .scalar .. | .array .. => .table false (upsert key value root.entries)
termination_by sizeOf value

/-- The tree with several values put under their names. -/
def putAll (root : Tree) (incoming : List (String × Tree)) : Tree :=
  match incoming with
  | [] => root
  | (name, value) :: rest => putAll (put root name value) rest
termination_by sizeOf incoming

end

end Tree

end BpfBoot.Settings
