import TokenConformance.Json.Display
import TokenConformance.OrderedMap

/-!
# Declared attributes — what a start tag may come with

The attributes of a tag are declared as an ordered map, or one by one, repetitions allowed.  A
single declaration is an attribute, a tuple of a name and a value, or something else, which is an
error.
-/

namespace TokenConformance

/-- A declared attribute. -/
structure Attribute where
  name : Text
  value : Text
  deriving DecidableEq

/-- One item of a list of declarations. -/
inductive Declaration
  | plain (a : Attribute)
  | tuple (items : List Text)
  | other (value : Json)

/-- The declarations of a tag. -/
inductive Declarations
  | map (entries : OrderedMap Text Text)
  | list (items : List Declaration)

/-- A declaration that is no attribute, as messages show it. -/
structure DeclarationError where
  shown : Text
  deriving DecidableEq

open Text (ofString)

/-- An attribute as traces show it. -/
def Attribute.display (a : Attribute) : Text := a.name ++ ofString "=" ++ a.value.quote

/-- What the error says. -/
def DeclarationError.message (e : DeclarationError) : Text :=
  ofString "Attribute must be an Attribute or a (name, value) tuple, got " ++ e.shown

/-- A tuple of texts as messages show it: a comma follows a single item. -/
def displayTuple : List Text → Text
  | [t] => ofString "(" ++ t.quote ++ ofString ",)"
  | items => ofString "(" ++ Text.join (ofString ", ") (items.map Text.quote) ++ ofString ")"

/-- The attribute that is declared. -/
def Declaration.toAttribute : Declaration → Except DeclarationError Attribute
  | plain a => .ok a
  | tuple [name, value] => .ok ⟨name, value⟩
  | tuple items => .error ⟨displayTuple items⟩
  | other value => .error ⟨value.display⟩

/-- The attributes that are declared, in order. -/
def Declarations.toAttributes : Declarations → Except DeclarationError (List Attribute)
  | map m => .ok (m.entries.map fun (name, value) => ⟨name, value⟩)
  | list items => items.mapM Declaration.toAttribute

/-- The attributes of a tag: a name that is declared more than once has the value of its first
declaration and the place of its last one, counted from behind. -/
def firstWins (pairs : List (Text × Text)) : OrderedMap Text Text := OrderedMap.ofList pairs.reverse

end TokenConformance
