import Reconcile.Json.Basic
import Reconcile.Text.Quoted

/-!
# Libraries that check schemas

Schemas are compiled and instances are checked against them by a library. `SchemaLibrary` is what is
asked of one: both are functions of what they are given, and nothing else is known of them. What the
library finds is told in its own words, behind the place where it was found.
-/

namespace Reconcile

/-- How a value does not fit, as far as that is told apart. -/
inductive ViolationKind where
  /-- An object has members that are not allowed in it. -/
  | unknownFields (names : List String)
  | wrongType
  | other

/-- A place at which an instance does not fit a schema. -/
structure Violation where
  /-- The pointer to the place, which is empty for the whole instance. -/
  place : String
  kind : ViolationKind
  /-- What the library says of it. -/
  text : String

/-- A violation in words; unknown fields are told one by one. -/
def Violation.texts (v : Violation) : List String :=
  let place := if v.place = "" then "/" else v.place
  match v.kind with
  | .unknownFields names => names.map fun name => "unknown field " ++ Text.quoted name ++ " at " ++ place
  | .wrongType => ["wrong type at " ++ place ++ ": " ++ v.text]
  | .other => [place ++ ": " ++ v.text]

/-- A library that compiles schemas and checks instances against what it made of them. -/
class SchemaLibrary where
  /-- What a schema is compiled to. -/
  Compiled : Type
  /-- Compiles a schema, or says why it cannot be used. -/
  compile : Json → Except String Compiled
  /-- What does not fit in an instance, in the order in which it is found. -/
  violations : Compiled → Json → List Violation

end Reconcile
