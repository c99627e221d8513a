import TokenConformance.Number.Binary64
import TokenConformance.Text.CodePoint

/-!
# JSON values — the data that test files hold

Integers are unbounded and apart from floating point numbers; the members of an object stand in
the order of their keys' first occurrence.
-/

namespace TokenConformance

/-- A JSON value. -/
inductive Json
  | null
  | bool (b : Bool)
  | int (n : Int)
  | float (x : Binary64)
  | str (t : Text)
  | arr (items : List Json)
  | obj (members : List (Text × Json))
  deriving Inhabited

namespace Json

/-- The name of a value's kind, as error messages give it. -/
def typeName : Json → String
  | null => "NoneType"
  | bool _ => "bool"
  | int _ => "int"
  | float _ => "float"
  | str _ => "str"
  | arr _ => "list"
  | obj _ => "dict"

/-- Whether a value counts as a yes: all do but null, false, zeros and whatever is empty. -/
def isTruthy : Json → Bool
  | null => false
  | bool b => b
  | int n => n ≠ 0
  | float x => !x.isZero
  | str t => !t.isEmpty
  | arr items => !items.isEmpty
  | obj members => !members.isEmpty

/-- The value at a key among the members of an object. -/
def member? (key : Text) (members : List (Text × Json)) : Option Json :=
  (members.find? fun p => decide (p.1 = key)).map Prod.snd

end Json

end TokenConformance
