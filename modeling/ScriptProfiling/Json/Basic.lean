import ScriptProfiling.Catalog
import ScriptProfiling.Value

/-!
# JSON values

Objects keep the order of their fields. A field that is written twice keeps its
first place and its last value.
-/
namespace ScriptProfiling

inductive Json where
  | null
  | bool (b : Bool)
  | int (n : Int)
  | float (x : Binary64)
  | text (s : String)
  | list (xs : List Json)
  | object (fields : List (String × Json))

instance : Inhabited Json := ⟨.null⟩

namespace Json

mutual

def toValue : Json → Value
  | .null => .null
  | .bool b => .bool b
  | .int n => .int n
  | .float x => .float x
  | .text s => .text s
  | .list xs => .list (toValues xs)
  | .object fields => .table (toFields fields)

def toValues : List Json → List Value
  | [] => []
  | x :: xs => toValue x :: toValues xs

def toFields : List (String × Json) → List (String × Value)
  | [] => []
  | (key, x) :: fields => (key, toValue x) :: toFields fields

end

end Json
end ScriptProfiling
