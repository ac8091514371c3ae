import Reconcile.Comparison.Summary
import Reconcile.Comparison.Trim
import Reconcile.LineDiff.Unified
import Reconcile.MergePatch
import Reconcile.Notice
import Reconcile.Snapshot
import Reconcile.Yaml.Printer

/-!
# Comparison of a config with a live object

A config is compared with one of three views of its live counterpart: the whole object without
what the server keeps in it, the part that the config mentions, or the snapshot of what was
applied last. The comparison also holds the patch that would lead from the live object to the
config, whatever the view.
-/

namespace Reconcile

/-- The view of a live object that a config is compared with. -/
inductive DiffStrategy where
  /-- The whole object without what the server keeps in it. -/
  | all
  /-- What the config mentions. -/
  | subset
  /-- What was applied last. -/
  | lastApplied
deriving DecidableEq

namespace DiffStrategy

/-- The name of a strategy. -/
def name : DiffStrategy → String
  | .all => "all"
  | .subset => "subset"
  | .lastApplied => "last-applied"

/-- The strategy with a name. -/
def parse (text : String) : Except Failure DiffStrategy :=
  match [DiffStrategy.all, .subset, .lastApplied].find? (·.name = text) with
  | some strategy => .ok strategy
  | none => .error (Cause.unknownStrategy text)

end DiffStrategy

/-- The members of `metadata` that the server keeps. -/
def serverMetadata : List String :=
  ["managedFields", "resourceVersion", "generation", "creationTimestamp", "uid", "selfLink"]

namespace Fields

/-- Without some of the keys. -/
def eraseAll (keys : List String) (fields : Fields) : Fields := keys.foldl (fun m k => m.erase k) fields

/-- Without some keys of the object under `map`, and without that object once it is empty. -/
def eraseWithin (map : String) (keys : List String) (fields : Fields) : Fields :=
  match fields.object? map with
  | none => fields
  | some inner =>
    match Fields.eraseAll keys inner with
    | [] => fields.erase map
    | rest => fields.insert map (.object rest)

/-- Changes the object under a key, if there is one. -/
def modifyObject (key : String) (f : Fields → Fields) (fields : Fields) : Fields :=
  match fields.object? key with
  | some inner => fields.insert key (.object (f inner))
  | none => fields

end Fields

namespace Json

/-- Changes the members of an object. -/
def mapFields (f : Fields → Fields) : Json → Json
  | .object members => .object (f members)
  | v => v

/-- Without the metadata that the server keeps, without snapshots and without the status. -/
def stripServerFields (v : Json) : Json :=
  v.mapFields fun members =>
    (Fields.modifyObject "metadata" (fun metadata =>
      (metadata.eraseAll serverMetadata).eraseWithin "annotations"
        [AnnotationKey.lastApplied, AnnotationKey.plainLastApplied]) members).erase "status"

/-- Without the garbage-collection tag, which no config carries. -/
def stripGcTag (v : Json) : Json :=
  v.mapFields (Fields.modifyObject "metadata" fun metadata =>
    (metadata.eraseWithin "annotations" [AnnotationKey.gcTag]).eraseWithin "labels" [Label.gcTag])

end Json

variable [Compression]

/-- What was applied last: the snapshot on a live object, or an empty object without one. -/
def lastAppliedOf (live : Resource) : Json × List Notice :=
  match Snapshot.lastApplied live with
  | .ok (some v) => (v, [])
  | .ok none => (.object [], [])
  | .error _ => (.object [], [.unreadableSnapshot live.qualifiedName live.kind])

/-- A config beside a view of its live counterpart. -/
structure Comparison where
  /-- The view of the live object. -/
  live : Json
  /-- What it is compared with. -/
  config : Json
  /-- What would lead from the live object to the config. -/
  patch : Json
  summary : Summary

namespace Comparison

/-- Compares a config with a live object of which `last` was applied last. -/
def make (config live : Resource) (strategy : DiffStrategy) (last : Json) : Comparison :=
  let (view, shown) :=
    match strategy with
    | .all => (live.toJson.stripServerFields, config.toJson)
    | .subset => (config.toJson.trim live.toJson, config.toJson)
    | .lastApplied => (last.stripGcTag, config.toJson.stripGcTag)
  { live := view
    config := shown
    patch := MergePatch.threeWay last config.toJson live.toJson
    summary := shown.summary view }

/-- Whether the two sides differ. -/
def hasDifferences (c : Comparison) : Bool := !c.config.sameValue c.live

/-- The two sides in YAML as a unified diff, the live one on the left. -/
def unified (c : Comparison) (name : String) : String :=
  LineDiff.unified (name ++ " (live)") (name ++ " (config)") (Yaml.print c.live) (Yaml.print c.config)

/-- Compares a config with its live counterpart. -/
def between (config live : Resource) (strategy : DiffStrategy) : Comparison × List Notice :=
  let (last, notices) := lastAppliedOf live
  (.make config live strategy last, notices)

end Comparison

end Reconcile
