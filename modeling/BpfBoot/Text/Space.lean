import BpfBoot.Text.CodeRange

/-!
# White space

White space is what the Unicode property `White_Space` says it is. It is removed around property
values and architecture names, and it separates the fields of a mount table.
-/

namespace BpfBoot.Text

/-- The characters with the property `White_Space`. -/
def spaceRanges : CodeRanges :=
  [(0x9, 0xd), (0x20, 0x20), (0x85, 0x85), (0xa0, 0xa0), (0x1680, 0x1680), (0x2000, 0x200a),
   (0x2028, 0x2029), (0x202f, 0x202f), (0x205f, 0x205f), (0x3000, 0x3000)]

def isSpace (c : Char) : Bool :=
  spaceRanges.contains c

/-- The characters after the leading white space. -/
def dropSpace (s : List Char) : List Char :=
  s.dropWhile isSpace

/-- The characters between the leading and the trailing white space. -/
def trimList (s : List Char) : List Char :=
  (dropSpace (dropSpace s).reverse).reverse

/-- The text without its leading and trailing white space. -/
def trim (s : String) : String :=
  String.ofList (trimList s.toList)

/-- The maximal runs of characters that are not white space, in order. -/
def wordsList (s : List Char) : List (List Char) :=
  go s []
where
  go : List Char → List Char → List (List Char)
    | [], word => if word.isEmpty then [] else [word.reverse]
    | c :: rest, word =>
        if isSpace c then
          if word.isEmpty then go rest [] else word.reverse :: go rest []
        else go rest (c :: word)

/-- The maximal runs of characters that are not white space, in order. -/
def words (s : String) : List String :=
  (wordsList s.toList).map String.ofList

/-- The texts between the line feeds, empty ones included. -/
def linesList : List Char → List (List Char)
  | [] => [[]]
  | c :: rest =>
      if c == '\n' then [] :: linesList rest
      else
        match linesList rest with
        | [] => [[c]]
        | line :: later => (c :: line) :: later

theorem dropSpace_cons_of_not_space {c : Char} (rest : List Char) (h : isSpace c = false) :
    dropSpace (c :: rest) = c :: rest := by
  simp [dropSpace, h]

end BpfBoot.Text
