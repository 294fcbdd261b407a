import AmrWarehouse.Library.Floating

/-! JSON values as a decoder yields them. -/

namespace Library

/-- The fields of an object have different names. -/
inductive Json
  | null
  | boolean (value : Bool)
  | integer (value : ℤ)
  | number (value : Floating)
  | string (value : String)
  | array (items : List Json)
  | object (fields : List (String × Json))

end Library
