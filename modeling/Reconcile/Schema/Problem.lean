import Reconcile.Json.Printer
import Reconcile.Text.Quoted

/-!
# Problems of instances

Where and how an instance does not fit a schema, and how that is told. A place in an instance is
written as a pointer: a slash before each key or index, with the tilde and the slash in keys
escaped.
-/

namespace Reconcile

/-- A step to a part of a value. -/
inductive PathStep where
  | key (k : String)
  | index (i : Nat)
deriving DecidableEq

/-- A place in a value: the steps that lead to it. -/
abbrev Path := List PathStep

namespace Path

/-- The place under a key. -/
def under (k : String) (p : Path) : Path := p ++ [.key k]

/-- The place of an item. -/
def item (i : Nat) (p : Path) : Path := p ++ [.index i]

/-- One character of a key in a pointer. -/
def escapedChar (c : Char) : List Char :=
  if c = '~' then ['~', '0'] else if c = '/' then ['~', '1'] else [c]

/-- A step in a pointer. -/
def stepText : PathStep → String
  | .key k => "/" ++ String.ofList (k.toList.flatMap escapedChar)
  | .index i => "/" ++ toString i

/-- A place as a pointer, which is empty for the whole value. -/
def text (p : Path) : String := String.join (p.map stepText)

end Path

/-- The types that a schema can ask for, in the order of their names. -/
inductive TypeName where
  | array | boolean | integer | null | number | object | string
deriving DecidableEq

namespace TypeName

/-- The name of a type. -/
def text : TypeName → String
  | .array => "array"
  | .boolean => "boolean"
  | .integer => "integer"
  | .null => "null"
  | .number => "number"
  | .object => "object"
  | .string => "string"

/-- All types, in the order of their names. -/
def all : List TypeName := [.array, .boolean, .integer, .null, .number, .object, .string]

/-- The type with a name. -/
def parse? (name : String) : Option TypeName := all.find? (·.text = name)

end TypeName

/-- What is counted of a value. -/
inductive Measure where
  | characters | items | properties
deriving DecidableEq

/-- A limit on numbers. -/
structure Bound where
  /-- Whether numbers above the limit are refused, else those below. -/
  upper : Bool
  /-- Whether the limit itself is refused. -/
  strict : Bool
  limit : Number
deriving DecidableEq

/-- How a value does not fit. -/
inductive Mismatch where
  | type (wanted : TypeName)
  | types (wanted : List TypeName)
  | unknownFields (names : List String)
  | missing (key : String)
  | notOneOf (options : List Json)
  | notConstant (expected : Json)
  | outOfBounds (bound : Bound)
  | tooFew (measure : Measure) (least : Nat)
  | tooMany (measure : Measure) (most : Nat)
  | notMultiple (divisor : String)
  | noMatch (pattern : String)
  | notUnique
  | extraItems (extra : List Json)
  | noneContained
  | never
  | noneOfAny
  | noneOfOne
  | severalOfOne
  | excluded (schema : Json)
  /-- The value of a schema is not in a format. -/
  | notInFormat (format : String)
  /-- The schema cannot be used. -/
  | unusable
  | noSuchReference (url : String)
  /-- The name of a member does not fit. -/
  | memberName (name : String) (m : Mismatch)

namespace Mismatch

/-- How many of what, in words. -/
def countText (measure : Measure) (n : Nat) : String :=
  toString n ++
    match measure with
    | .characters => if n = 1 then " character" else " characters"
    | .items => if n = 1 then " item" else " items"
    | .properties => if n = 1 then " property" else " properties"

/-- How a bound is not kept, in words. -/
def boundText (b : Bound) : String :=
  (if b.upper then "greater than " else "less than ") ++ (if b.strict then "or equal to " else "")
    ++ (if b.upper then "the maximum of " else "the minimum of ") ++ b.limit.text

/-- A value and how it does not fit, in words. -/
def text (v : Json) : Mismatch → String
  | .type wanted => v.compact ++ " is not of type \"" ++ wanted.text ++ "\""
  | .types wanted =>
    v.compact ++ " is not of types " ++ ", ".intercalate (wanted.map fun t => "\"" ++ t.text ++ "\"")
  | .unknownFields names => "unknown fields " ++ ", ".intercalate (names.map Text.quoted)
  | .missing key => Json.stringText key ++ " is a required property"
  | .notOneOf options => v.compact ++ " is not one of " ++ (Json.array options).compact
  | .notConstant expected => expected.compact ++ " was expected"
  | .outOfBounds bound => v.compact ++ " is " ++ boundText bound
  | .tooFew .characters least => v.compact ++ " is shorter than " ++ countText .characters least
  | .tooMany .characters most => v.compact ++ " is longer than " ++ countText .characters most
  | .tooFew measure least => v.compact ++ " has less than " ++ countText measure least
  | .tooMany measure most => v.compact ++ " has more than " ++ countText measure most
  | .notMultiple divisor => v.compact ++ " is not a multiple of " ++ divisor
  | .noMatch pattern => v.compact ++ " does not match \"" ++ pattern ++ "\""
  | .notUnique => v.compact ++ " has non-unique elements"
  | .extraItems extra =>
    "Additional items are not allowed (" ++ ", ".intercalate (extra.map Json.compact)
      ++ (if extra.length = 1 then " was" else " were") ++ " unexpected)"
  | .noneContained => "None of " ++ v.compact ++ " are valid under the given schema"
  | .never => "False schema does not allow " ++ v.compact
  | .noneOfAny => v.compact ++ " is not valid under any of the schemas listed in the 'anyOf' keyword"
  | .noneOfOne => v.compact ++ " is not valid under any of the schemas listed in the 'oneOf' keyword"
  | .severalOfOne =>
    v.compact ++ " is valid under more than one of the schemas listed in the 'oneOf' keyword"
  | .excluded schema => schema.compact ++ " is not allowed for " ++ v.compact
  | .notInFormat format => v.compact ++ " is not a \"" ++ format ++ "\""
  | .unusable => "Schema error"
  | .noSuchReference url => "Invalid reference: " ++ url
  | .memberName name m => m.text (.string name)

end Mismatch

/-- A value at a place that does not fit. -/
structure Problem where
  place : Path
  value : Json
  mismatch : Mismatch

end Reconcile
