import BpfBoot.Text.Utf8

/-!
# Paths

A path is a byte string in which slashes separate names. Paths are joined and shown as they were
written: neither repeated slashes nor `.` and `..` are removed.
-/

namespace BpfBoot

/-- The name of a file in its directory. -/
abbrev Name := Bytes

structure Path where
  bytes : Bytes
  deriving DecidableEq, Repr

namespace Path

def slash : UInt8 := 0x2f

def ofString (s : String) : Path :=
  ⟨Text.Utf8.encode s⟩

/-- The path as text; names that are not UTF-8 show U+FFFD. -/
def display (p : Path) : String :=
  Text.Utf8.decodeLossy p.bytes

def isAbsolute (p : Path) : Bool :=
  p.bytes.head? == some slash

def endsWithSlash (p : Path) : Bool :=
  p.bytes.getLast? == some slash

/-- Whether the path holds a NUL byte, so that no system call can take it. -/
def hasNul (p : Path) : Bool :=
  p.bytes.contains 0

/-- The path `q` seen from the directory `p`; an absolute `q` stands for itself. -/
def join (p q : Path) : Path :=
  if q.isAbsolute then q
  else if p.bytes.isEmpty || p.endsWithSlash then ⟨p.bytes ++ q.bytes⟩
  else ⟨p.bytes ++ slash :: q.bytes⟩

/-- The byte strings between the slashes, empty ones included. -/
def pieces : Bytes → List Bytes
  | [] => [[]]
  | b :: rest =>
      if b == slash then [] :: pieces rest
      else
        match pieces rest with
        | [] => [[b]]
        | piece :: later => (b :: piece) :: later

def names (p : Path) : List Name :=
  (pieces p.bytes).filter (!·.isEmpty)

def dot : Name := [0x2e]

def dotDot : Name := [0x2e, 0x2e]

/-- The last name of the path, unless that is `..`. -/
def fileName? (p : Path) : Option Name :=
  match (p.names.filter (· != dot)).getLast? with
  | some name => if name == dotDot then none else some name
  | none => none

/-- The names that lead from one directory to a place, both given by the names from the root. -/
def namesFrom : (base place : List Name) → List Name
  | [], place => place
  | base, [] => base.map fun _ => dotDot
  | b :: base, a :: place =>
      if b == a then namesFrom base place else ((b :: base).map fun _ => dotDot) ++ a :: place

/-- The path that leads from a directory to this absolute path. -/
def relativeTo (p : Path) (base : List Name) : Path :=
  let names := namesFrom base (p.names.filter (· != dot))
  ⟨(names.intersperse [slash]).flatten⟩

theorem join_of_isAbsolute (p : Path) {q : Path} (h : q.isAbsolute = true) : p.join q = q := by
  simp [join, h]

end Path

/-- Byte order of names. -/
def Name.le : Name → Name → Bool
  | [], _ => true
  | _ :: _, [] => false
  | a :: as, b :: bs => a < b || (a == b && Name.le as bs)

end BpfBoot
