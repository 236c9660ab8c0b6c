import BpfBoot.Number.Binary64

/-!
# JSON5 values
-/

namespace BpfBoot.Json5

/-- A JSON5 value. The members of an object stand in the order of the text. -/
inductive Value where
  | null
  | boolean (b : Bool)
  | integer (i : Int)
  | float (x : Number.Binary64)
  | string (s : String)
  | array (elements : List Value)
  | object (members : List (String × Value))
  deriving Repr

end BpfBoot.Json5
