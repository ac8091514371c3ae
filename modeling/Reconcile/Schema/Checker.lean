import Reconcile.Schema.Document
import Reconcile.Schema.Library

/-!
# The checker of schemas

The reader of schemas and the checks that they come to, as a library. A schema is read when an instance
is checked; compiled, it is the document itself, once its reference is known to be one.
-/

namespace Reconcile

/-- A problem as a library reports it. -/
def Problem.violation (p : Problem) : Violation where
  place := p.place.text
  kind :=
    match p.mismatch with
    | .unknownFields names => .unknownFields names
    | .type _ | .types _ => .wrongType
    | _ => .other
  text := p.mismatch.text p.value

namespace Schema

/-- Whether a text can be a reference: it holds no blanks and no backslash. -/
def isReference (text : String) : Bool := text.toList.all fun c => !Text.isBlank c && c != '\\'

/-- A document that can be used as a schema; its own reference has to be fit for one. -/
def compile (document : Json) : Except String Json :=
  match (document.get? "$ref").bind Json.string? with
  | some target =>
    if isReference target then .ok document
    else .error ((Mismatch.notInFormat "uri-reference").text (.string target))
  | none => .ok document

/-- A schema is compiled to its document and read again when an instance is checked. -/
instance [PatternLanguage] : SchemaLibrary where
  Compiled := Json
  compile := compile
  violations document v := (problemsIn document v).map Problem.violation

end Schema

end Reconcile
