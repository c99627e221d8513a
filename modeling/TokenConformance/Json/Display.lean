import TokenConformance.Json.Basic
import TokenConformance.Number.Shortest
import TokenConformance.Text.Quote

/-!
# JSON values in messages — the form that reports and errors show

Null and the truth values are written `None`, `True` and `False`, texts quoted, arrays between
brackets and objects between braces with a blank behind each comma and colon.
-/

namespace TokenConformance.Json

open Text (ofString)

mutual

/-- A value as messages show it, where texts escape what is not `printable`. -/
def displayWith (printable : CodePoint → Bool) : Json → Text
  | null => ofString "None"
  | bool b => ofString (if b then "True" else "False")
  | int n => Text.ofInt n
  | float x => x.toText
  | str t => t.quoteWith printable
  | arr items =>
    ofString "[" ++ Text.join (ofString ", ") (displayItems printable items) ++ ofString "]"
  | obj members =>
    ofString "\x7b" ++ Text.join (ofString ", ") (displayMembers printable members) ++
      ofString "\x7d"

/-- The items of an array one by one. -/
def displayItems (printable : CodePoint → Bool) : List Json → List Text
  | [] => []
  | v :: rest => displayWith printable v :: displayItems printable rest

/-- The members of an object one by one. -/
def displayMembers (printable : CodePoint → Bool) : List (Text × Json) → List Text
  | [] => []
  | (key, v) :: rest =>
    (key.quoteWith printable ++ ofString ": " ++ displayWith printable v) ::
      displayMembers printable rest

end

/-- A value as messages show it. -/
def display (v : Json) : Text := v.displayWith CodePoint.isPrintable

/-- A value in running text: a text stands for itself, anything else as in `display`. -/
def plain : Json → Text
  | str t => t
  | v => v.display

end TokenConformance.Json
