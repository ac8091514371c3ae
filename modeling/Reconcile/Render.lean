import Reconcile.Json.Printer
import Reconcile.Resource
import Reconcile.Yaml.Printer

/-!
# Listings of objects

Objects as text: YAML documents, each after a line of dashes, or indented JSON documents.
-/

namespace Reconcile

/-- How objects are written. -/
inductive OutputFormat where
  | yaml
  | json
deriving DecidableEq

/-- One object as text. -/
def Resource.render (format : OutputFormat) (r : Resource) : String :=
  match format with
  | .yaml => "---\n" ++ Yaml.print r.toJson
  | .json => r.toJson.pretty ++ "\n"

/-- Objects as text, in the order given. -/
def render (format : OutputFormat) (objects : List Resource) : String :=
  String.join (objects.map (·.render format))

end Reconcile
