import Reconcile.Command.Collect
import Reconcile.Comparison.Basic
import Reconcile.Label

/-!
# Updates

An update brings every object it is given onto the server, what others depend on first: a missing
object is created, an existing one gets the merge patch that leads from it to the config, and one
that needs no change is left alone. Each object carries a snapshot of itself and, in a run with a
tag, the tag. When all objects are there, the garbage of the tag is collected; an update that fails
collects nothing.
-/

namespace Reconcile

/-- How an update is to be done. -/
structure UpdateOptions where
  /-- Whether missing objects are created. -/
  create : Bool
  /-- The tag that marks the objects of the run. -/
  gcTag : Option String
  skipGc : Bool
  listMode : ListMode
  scopeSelector : Option String
  dryRun : Bool
  ignoreUnknown : Bool

/-- What became of an object. -/
inductive Outcome where
  | created | patched | unchanged
deriving DecidableEq

/-- The name of an outcome. -/
def Outcome.name : Outcome → String
  | .created => "Created"
  | .patched => "Patched"
  | .unchanged => "Unchanged"

/-- What an update came to. -/
structure UpdateReport where
  applied : List (Identity × Outcome)
  skippedUnknown : Nat
  seen : Seen
  gc : Option CollectReport

/-- Nothing done yet. -/
def UpdateReport.empty : UpdateReport := ⟨[], 0, .empty, none⟩

variable [Compression]

/-- The object that is submitted for an object of the input: in its namespace, marked with the tag
of the run, and with a snapshot of itself. -/
def Resource.submitted (target : Option String) (tag : Option String) (r : Resource) : Resource :=
  let placed := r.placedIn target
  Snapshot.stamp <|
    match tag with
    | some tag => (placed.setAnnotation AnnotationKey.gcTag tag).setLabel Label.gcTag tag
    | none => placed

namespace Program

/-- Creates an object that is not there. -/
def createMissing (options : UpdateOptions) (kind : KindInfo) (object : Resource) (description : String) :
    Program (Resource × Outcome) := do
  if !options.create then .fail (Cause.creationOff description)
  else
    tell (.creating description options.dryRun)
    if options.dryRun then return (object, .created)
    else
      let created ← demand (.create kind object.scope? object)
      return (created, .created)

/-- Brings an object that is there into line; one that vanishes meanwhile is created. -/
def patchExisting (options : UpdateOptions) (kind : KindInfo) (object live : Resource)
    (description : String) : Program (Resource × Outcome) := do
  let (last, notices) := lastAppliedOf live
  tellAll notices
  let patch := MergePatch.threeWay last object.toJson live.toJson
  if MergePatch.isNoop patch then return (live, .unchanged)
  else if options.dryRun then return (live, .patched)
  else
    match ← request (.patch kind object.scope? object.name patch) with
    | .ok patched => return (patched, .patched)
    | .error e =>
      if e.isNotFound then createMissing options kind object description
      else .fail (Cause.api e)

/-- Brings one object onto the server and gives what the server holds then. -/
def applyOne (defaultScope : String) (options : UpdateOptions) (kind : KindInfo) (r : Resource) :
    Program (Resource × Outcome) := do
  let target := targetScope defaultScope kind r
  let object := r.submitted target options.gcTag
  let description ← describe object
  tell (.updating description options.dryRun)
  inContext ("error updating " ++ description) do
    match ← request (.get kind target object.name) with
    | .ok live => patchExisting options kind object live description
    | .error e =>
      if e.isNotFound then createMissing options kind object description
      else .fail (Cause.api e)

/-- Brings objects onto the server, one after the other. -/
def applyAll (defaultScope : String) (options : UpdateOptions) :
    List Resource → UpdateReport → Program UpdateReport
  | [], report => return report
  | r :: rest, report => do
    match ← kindOf options.ignoreUnknown r with
    | none =>
      applyAll defaultScope options rest { report with skippedUnknown := report.skippedUnknown + 1 }
    | some kind =>
      let (applied, outcome) ← applyOne defaultScope options kind r
      applyAll defaultScope options rest
        { report with
          seen := report.seen.insert applied
          applied := report.applied ++ [(applied.identity, outcome)] }

/-- Accepts objects with distinct identities and a tag that is a label value. -/
def checkUpdate (objects : List Resource) (tag : Option String) : Except Failure Unit := do
  (checkDuplicates objects).mapError fun e => Failure.ofCause (.model e)
  match tag with
  | none => .ok ()
  | some tag => (Label.check tag).mapError fun problem => Failure.ofCause (.invalidTag problem.message)

/-- Brings objects onto the server and collects what fell out of the set. -/
def update (defaultScope : String) (options : UpdateOptions) (table : RankTable)
    (objects : List Resource) : Program UpdateReport := do
  ofExcept (checkUpdate objects options.gcTag)
  let kinds ← demand .kinds
  tell (.updateBegins objects.length options.dryRun)
  let ordered := creationOrder table (KindInfo.scopes kinds) objects
  let report ← applyAll defaultScope options ordered .empty
  match options.gcTag, options.skipGc with
  | some tag, false =>
    let collected ← collect
      { tag, listMode := options.listMode, scopeSelector := options.scopeSelector
        dryRun := options.dryRun } report.seen table
    return { report with gc := some collected }
  | _, _ => return report

end Program

end Reconcile
