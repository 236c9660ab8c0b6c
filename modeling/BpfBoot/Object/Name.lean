import BpfBoot.Bytes

/-!
# Names of object files

An object file is recognised by its ending `.o`. The name of the object, which becomes part of the
names of its pins, is what stands before the ending and before the first `@`, so that variants such as
`offload@mainline.o` share their pins with `offload.o`.
-/

namespace BpfBoot.Object

/-- The ending of object files. -/
def extension : Bytes := [0x2e, 0x6f]

/-- Whether a file name is that of an object file. -/
def isObjectFile (name : Bytes) : Bool :=
  extension.isSuffixOf name

/-- The characters of a file name without the ending `.o`, if it has that ending. -/
def stemList (fileName : List Char) : List Char :=
  if ['.', 'o'].isSuffixOf fileName then fileName.dropLast.dropLast else fileName

/-- The name of the object in a file. -/
def objectName (fileName : String) : String :=
  String.ofList ((stemList fileName.toList).takeWhile (· != '@'))

end BpfBoot.Object
