import Reconcile.Json.Basic

/-!
# Closing of schemas and removal of nulls

A published schema lists the properties of an object and says nothing about others.
`Json.tighten` closes it: at every schema position where properties are listed, others are refused,
unless the schema speaks of them or preserves unknown fields. What is no schema position (defaults,
examples, enumerations) stays as it is. `Json.pruneNulls` takes every null member out of an
instance, because rendered objects carry nulls for what is not set.
-/

namespace Reconcile

/-- Whether a schema keeps fields it does not list. -/
def preservesUnknown (schema : Fields) : Bool :=
  (schema.bool? "x-kubernetes-preserve-unknown-fields").getD false

/-- Refuses the properties that a schema does not list, unless it speaks of them. -/
def closeProperties (schema : Fields) : Fields :=
  if schema.has "properties" && !schema.has "additionalProperties" && !preservesUnknown schema then
    schema.insert "additionalProperties" (.bool false)
  else schema

/-- Where the schemas are in the value of a keyword. -/
inductive SchemaSite where
  /-- The value maps names to schemas. -/
  | map
  /-- The value lists schemas. -/
  | list
  /-- The value is a schema or a list of schemas. -/
  | either
  /-- The value holds no schemas. -/
  | nowhere
deriving DecidableEq

/-- Where the schemas are under a keyword. -/
def schemaSite (keyword : String) : SchemaSite :=
  if keyword ∈ ["properties", "patternProperties", "definitions"] then .map
  else if keyword ∈ ["allOf", "anyOf", "oneOf"] then .list
  else if keyword ∈ ["items", "additionalProperties", "not"] then .either
  else .nowhere

namespace Json

mutual

/-- Closes a schema and the schemas in it. -/
def tighten : Json → Json
  | .object members => .object (closeProperties (tightenKeywords members))
  | v => v

/-- Closes the schemas under each keyword. -/
def tightenKeywords : List (String × Json) → List (String × Json)
  | [] => []
  | (keyword, v) :: rest => (keyword, tightenUnder (schemaSite keyword) v) :: tightenKeywords rest

/-- Closes the schemas in the value of a keyword. -/
def tightenUnder (site : SchemaSite) : Json → Json
  | .object members =>
    match site with
    | .map => .object (tightenEach members)
    | .either => .object (closeProperties (tightenKeywords members))
    | _ => .object members
  | .array items =>
    match site with
    | .list | .either => .array (tightenItems items)
    | _ => .array items
  | v => v

/-- Closes the schemas under all names. -/
def tightenEach : List (String × Json) → List (String × Json)
  | [] => []
  | (name, v) :: rest => (name, tighten v) :: tightenEach rest

/-- Closes all schemas of a list. -/
def tightenItems : List Json → List Json
  | [] => []
  | v :: rest => tighten v :: tightenItems rest

end

mutual

/-- Without null members, at any depth. -/
def pruneNulls : Json → Json
  | .object members => .object (pruneFields members)
  | .array items => .array (pruneItems items)
  | v => v

/-- Each item without null members; null items stay. -/
def pruneItems : List Json → List Json
  | [] => []
  | v :: rest => pruneNulls v :: pruneItems rest

/-- The members that are not null, without null members in them. -/
def pruneFields : List (String × Json) → List (String × Json)
  | [] => []
  | (key, v) :: rest => if v.isNull then pruneFields rest else (key, pruneNulls v) :: pruneFields rest

end

end Json

end Reconcile
