import Reconcile.Json.Basic

/-!
# Equality of values

`Json.sameValue` compares two values without regard to how their numbers are represented: `8080`
and `8080.0` are the same. Arrays compare item by item, objects member by member.
-/

namespace Reconcile.Json

mutual

/-- Equality of values, numbers by value. -/
def sameValue : Json → Json → Bool
  | .null, .null => true
  | .bool a, .bool b => a == b
  | .number a, .number b => a.sameValue b
  | .string a, .string b => a == b
  | .array a, .array b => sameItems a b
  | .object a, .object b => a.length == b.length && sameFields a b
  | _, _ => false

/-- Whether two lists have the same values in the same places. -/
def sameItems : List Json → List Json → Bool
  | [], [] => true
  | a :: as, b :: bs => sameValue a b && sameItems as bs
  | _, _ => false

/-- Whether each member has the same value on the other side. -/
def sameFields : List (String × Json) → Fields → Bool
  | [], _ => true
  | (k, v) :: rest, other =>
    (match other.get? k with
      | some w => sameValue v w
      | none => false)
      && sameFields rest other

end

/-- The values that a server never echoes: null, false, zero and everything empty. -/
def isEmptyValue : Json → Bool
  | .null => true
  | .bool b => !b
  | .number n => n.isZero
  | .string s => s == ""
  | .array items => items.isEmpty
  | .object members => members.isEmpty

end Reconcile.Json
