import Reconcile.Resource
import Reconcile.Schema.Library
import Reconcile.Schema.Tighten

/-!
# Validators

Which schema an object has to fit: a server publishes a document for each API version, and in it a
schema names the kinds it is for. A validator asks for each document once and finds the schema of
each kind once; what it could not get, it asks for again. The schemas are closed, and nulls in
objects do not count. Whatever the library, a validator compiles a reference into the document's own
schemas, and reports what the library finds.
-/

namespace Reconcile

/-- Where documents come from: for each API version a document, none, or a failure. -/
abbrev SchemaSource := String → Except Failure (Option Json)

/-- Changes the value under a key of an object, if there is one. -/
def Json.modifyMember (key : String) (f : Json → Json) : Json → Json
  | .object members =>
    match Fields.get? key members with
    | some v => .object (Fields.insert key (f v) members)
    | none => .object members
  | v => v

/-- A document with all its schemas closed. -/
def tightenDocument (doc : Json) : Json :=
  doc.modifyMember "components" fun components => components.modifyMember "schemas" fun schemas =>
    match schemas with
    | .object members => .object (Json.tightenEach members)
    | other => other

/-- Whether an entry names a kind; what is not given is empty. -/
def namesKind (gvk : Gvk) (entry : Json) : Bool :=
  let text (key : String) : String := ((entry.get? key).bind Json.string?).getD ""
  text "group" == gvk.group && text "version" == gvk.version && text "kind" == gvk.kind

/-- Whether a schema is for a kind. -/
def isSchemaOf (gvk : Gvk) (schema : Json) : Bool :=
  match (schema.get? "x-kubernetes-group-version-kind").bind Json.array? with
  | some entries => entries.any (namesKind gvk)
  | none => false

/-- The name of the first schema for a kind. -/
def definitionOf (doc : Json) (gvk : Gvk) : Option String := do
  let schemas ← ((← doc.get? "components").get? "schemas").bind Json.object?
  return (← schemas.find? fun entry => isSchemaOf gvk entry.2).1

/-- The schema of that name in a document, as it is compiled: a reference to it, and all that the document
has for it to refer to. -/
def rootSchema (doc : Json) (name : String) : Json :=
  .object [("$ref", .string ("#/components/schemas/" ++ name)),
    ("components", (doc.get? "components").getD .null)]

section Library

variable [SchemaLibrary]

/-- What was found out so far about documents and schemas. -/
structure Validator where
  documents : List (String × Option Json)
  schemas : List (Gvk × Option SchemaLibrary.Compiled)

namespace Validator

/-- Nothing found out yet. -/
def empty : Validator := ⟨[], []⟩

/-- The document for an API version, closed. -/
def document (source : SchemaSource) (apiVersion : String) (v : Validator) :
    Except Failure (Option Json) × Validator :=
  match v.documents.lookup apiVersion with
  | some doc => (.ok doc, v)
  | none =>
    match source apiVersion with
    | .error f => (.error f, v)
    | .ok doc =>
      let doc := doc.map tightenDocument
      (.ok doc, { v with documents := (apiVersion, doc) :: v.documents })

/-- The schema of a kind in the document for its API version. -/
def schemaIn (doc : Option Json) (gvk : Gvk) : Except Failure (Option SchemaLibrary.Compiled) :=
  match doc.bind fun doc => (definitionOf doc gvk).map fun name => (doc, name) with
  | some (doc, name) =>
    match SchemaLibrary.compile (rootSchema doc name) with
    | .ok s => .ok (some s)
    | .error problem => .error (Cause.schemaNotCompiled name problem)
  | none => .ok none

/-- The schema of a kind. -/
def schema (source : SchemaSource) (gvk : Gvk) (v : Validator) :
    Except Failure (Option SchemaLibrary.Compiled) × Validator :=
  match v.schemas.lookup gvk with
  | some s => (.ok s, v)
  | none =>
    match v.document source gvk.apiVersion with
    | (.error f, v) => (.error f, v)
    | (.ok doc, v) =>
      match schemaIn doc gvk with
      | .error f => (.error f, v)
      | .ok s => (.ok s, { v with schemas := (gvk, s) :: v.schemas })

/-- What does not fit in an object, in words; nothing can be said without a schema. -/
def problems (source : SchemaSource) (r : Resource) (v : Validator) :
    Except Failure (Option (List String)) × Validator :=
  match v.schema source r.gvk with
  | (.error f, v) => (.error f, v)
  | (.ok s, v) =>
    (.ok (s.map fun s => (SchemaLibrary.violations s r.toJson.pruneNulls).flatMap Violation.texts), v)

end Validator

end Library

end Reconcile
