import Reconcile.Text.Quoted

/-!
# Kinds and identities

A kind of object is named by its group, version and kind; the group of the core kinds is empty.
An object is identified by its kind, its namespace, if it has one, and its name. Both are ordered
lexicographically, an absent namespace before every other.
-/

namespace Reconcile

/-- Group, version and kind. -/
structure Gvk where
  group : String
  version : String
  kind : String
deriving DecidableEq, Inhabited

namespace Gvk

/-- Splits characters at the first slash. -/
def splitSlash : List Char → Option (List Char × List Char)
  | [] => none
  | c :: rest =>
    if c = '/' then some ([], rest)
    else (splitSlash rest).map fun (before, after) => (c :: before, after)

/-- Reads `version` or `group/version`, the group ending at the first slash. -/
def ofApiVersion (apiVersion kind : String) : Gvk :=
  match splitSlash apiVersion.toList with
  | some (group, version) => ⟨String.ofList group, String.ofList version, kind⟩
  | none => ⟨"", apiVersion, kind⟩

/-- Writes `version` for the core group and `group/version` for the others. -/
def apiVersion (g : Gvk) : String := if g.group = "" then g.version else g.group ++ "/" ++ g.version

/-- Text such as `apps/v1, Kind=Deployment`; the core group shows as nothing before the slash. -/
def text (g : Gvk) : String := g.group ++ "/" ++ g.version ++ ", Kind=" ++ g.kind

/-- Lexicographic order of group, version and kind. -/
def compare (a b : Gvk) : Ordering :=
  (Ord.compare a.group b.group).then ((Ord.compare a.version b.version).then (Ord.compare a.kind b.kind))

end Gvk

/-- Which object: its kind, its namespace if it has one, and its name. -/
structure Identity where
  gvk : Gvk
  scope : Option String
  name : String
deriving DecidableEq, Inhabited

namespace Identity

/-- Text with the namespace and the name in quotes, an absent namespace as an empty one. -/
def text (id : Identity) : String :=
  id.gvk.text ++ ", " ++ Text.quoted (id.scope.getD "") ++ ", " ++ Text.quoted id.name

/-- Order of optional texts, the absent one first. -/
def compareOption : Option String → Option String → Ordering
  | none, none => .eq
  | none, some _ => .lt
  | some _, none => .gt
  | some a, some b => Ord.compare a b

/-- Lexicographic order of kind, namespace and name. -/
def compare (a b : Identity) : Ordering :=
  (a.gvk.compare b.gvk).then ((compareOption a.scope b.scope).then (Ord.compare a.name b.name))

end Identity

/-- The namespace and the name of an object, joined by a point; just the name without one. -/
def qualifiedName (scope : Option String) (name : String) : String :=
  match scope with
  | some ns => ns ++ "." ++ name
  | none => name

end Reconcile
