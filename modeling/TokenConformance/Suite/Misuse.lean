import TokenConformance.Json.Basic

/-!
# Misuse of values — when a value cannot do what a test file asks of it

Test files are not checked against a schema.  A value of the wrong kind is noticed where it is
used, and the kind of use decides the error.
-/

namespace TokenConformance

/-- What was asked of a value in vain. -/
inductive Misuse
  /-- To have members or items looked up in it. -/
  | notIndexable
  /-- To be gone through item by item. -/
  | notIterable
  /-- To be searched. -/
  | notSearchable
  /-- To have a length. -/
  | notMeasurable
  /-- To give a member or a default in its place. -/
  | noMembers
  /-- To be a text. -/
  | notText
  /-- To have an item at an index beyond its ends. -/
  | outOfRange
  /-- To have a member that is not there. -/
  | noSuchMember
  deriving DecidableEq, Repr

namespace Json

/-- Whether a text occurs in a value: inside a text, among the items of an array or the keys of an
object. -/
def search (needle : Text) : Json → Except Misuse Bool
  | str t => .ok (needle.occursIn t)
  | arr items => .ok (items.any fun
    | str t => decide (t = needle)
    | _ => false)
  | obj members => .ok (members.any fun p => decide (p.1 = needle))
  | _ => .error .notSearchable

/-- What going through a value meets: the items of an array, the code points of a text, the keys of
an object. -/
def iterate : Json → Except Misuse (List Json)
  | arr items => .ok items
  | str t => .ok (t.map fun c => str [c])
  | obj members => .ok (members.map fun p => str p.1)
  | _ => .error .notIterable

end Json

end TokenConformance
