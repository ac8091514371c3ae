import Reconcile.Cluster.Session
import Reconcile.Command.Seen
import Reconcile.Eligible
import Reconcile.Order.Basic

/-!
# Garbage collection

Every object on the server that carries a run's tag, may be collected and was not handled in the
run is deleted, what depends on others first. Each kind is listed across all namespaces or in each
namespace by itself; a listing that is not permitted is skipped. A deletion names the uid that was
listed, so an object created anew in the meantime survives: it counts as raced.
-/

namespace Reconcile

/-- How objects are listed for garbage collection. -/
inductive ListMode where
  /-- Across all namespaces. -/
  | clusterScope
  /-- In one namespace after the other, which needs permissions in these alone. -/
  | perNamespace
deriving DecidableEq

namespace ListMode

/-- The name of a mode. -/
def name : ListMode → String
  | .clusterScope => "cluster-scope"
  | .perNamespace => "per-namespace"

/-- The mode with a name. -/
def parse (text : String) : Except Failure ListMode :=
  match [ListMode.clusterScope, .perNamespace].find? (·.name = text) with
  | some mode => .ok mode
  | none => .error (Cause.unknownListMode text)

end ListMode

/-- What is to be collected, and how. -/
structure CollectOptions where
  tag : String
  listMode : ListMode
  /-- Which namespaces are searched; all without a selector. -/
  scopeSelector : Option String
  dryRun : Bool

/-- The mode that holds: a selector of namespaces asks for listing them one by one. -/
def CollectOptions.effectiveMode (options : CollectOptions) : ListMode :=
  if options.scopeSelector.isSome then .perNamespace else options.listMode

/-- What a garbage collection came to. -/
structure CollectReport where
  /-- How many distinct objects were looked at. -/
  considered : Nat
  deleted : List Identity
  /-- What would have been deleted, had this not been a dry run. -/
  wouldDelete : List Identity
  /-- How many objects were gone or replaced when it came to deleting them. -/
  raced : Nat
  /-- How many listings were not permitted. -/
  forbiddenLists : Nat
deriving DecidableEq

/-- The state of looking for garbage. -/
structure Gathering where
  considered : Nat
  forbiddenLists : Nat
  /-- The uids of the objects looked at. -/
  walked : List String
  /-- The garbage found, in order. -/
  doomed : List Resource

namespace Gathering

/-- Nothing looked at yet. -/
def empty : Gathering := ⟨0, 0, [], []⟩

/-- Looks at an object, unless it was looked at under another kind. -/
def visit (tag : String) (seen : Seen) (g : Gathering) (r : Resource) : Gathering :=
  match r.uid? with
  | some uid =>
    if uid ∈ g.walked then g
    else consider { g with walked := uid :: g.walked }
  | none => consider g
where
  /-- Counts the object, and takes it down as garbage if it is. -/
  consider (g : Gathering) : Gathering :=
    { g with
      considered := g.considered + 1
      doomed := if r.isEligible tag && !seen.contains r then g.doomed ++ [r] else g.doomed }

end Gathering

namespace Program

/-- The namespaces to list in; the absent one stands for all of them. -/
def scopesToList (options : CollectOptions) (kinds : List KindInfo) : Program (List (Option String)) :=
  match options.effectiveMode with
  | .clusterScope => return [none]
  | .perNamespace =>
    match KindInfo.find kinds ⟨"", "v1", "Namespace"⟩ with
    | none => .fail Cause.namespacesNotServed
    | some kind => do
      let found ← (demand (.list kind none options.scopeSelector)).inContext "listing namespaces"
      return (found : List Resource).map fun r => some r.name

/-- The listings to make: those kinds that can be listed, cluster-wide ones once. -/
def listings (kinds : List KindInfo) (scopes : List (Option String)) : List (KindInfo × Option String) :=
  (kinds.filter (·.supports "list")).flatMap fun kind =>
    (if kind.isNamespaced then scopes else [none]).map fun scope => (kind, scope)

/-- Looks for garbage in listings. -/
def gather (tag : String) (seen : Seen) :
    List (KindInfo × Option String) → Gathering → Program Gathering
  | [], g => return g
  | (kind, scope) :: rest, g => do
    match ← request (.list kind scope none) with
    | .ok found => gather tag seen rest ((found : List Resource).foldl (Gathering.visit tag seen) g)
    | .error e =>
      if e.isForbidden then
        tell (.unlistable kind.gvk scope)
        gather tag seen rest { g with forbiddenLists := g.forbiddenLists + 1 }
      else
        .fail ((Failure.ofCause (.api e)).inContext
          ("listing " ++ kind.gvk.text ++ " in namespace " ++ Text.quoted (scope.getD "")))

/-- Deletes one piece of garbage, or says that it would. -/
def collectOne (options : DeleteOptions) (dryRun : Bool) (r : Resource) (report : CollectReport) :
    Program CollectReport := do
  let object ← describe r
  tell (.collecting object r.apiVersion dryRun)
  if dryRun then return { report with wouldDelete := report.wouldDelete ++ [r.identity] }
  else
    let kind ← resolve r.gvk
    match ← request (.delete kind r.scope? r.name (options.withUid r.uid?)) with
    | .ok _ => return { report with deleted := report.deleted ++ [r.identity] }
    | .error e =>
      if e.isNotFound || e.isConflict then return { report with raced := report.raced + 1 }
      else
        .fail ((Failure.ofCause (.api e)).inContext
          ("error deleting " ++ object ++ " (" ++ r.apiVersion ++ ")"))

/-- Deletes the garbage in order. -/
def collectAll (options : DeleteOptions) (dryRun : Bool) :
    List Resource → CollectReport → Program CollectReport
  | [], report => return report
  | r :: rest, report => do
    let report ← collectOne options dryRun r report
    collectAll options dryRun rest report

/-- Collects the garbage of a tag. -/
def collect (options : CollectOptions) (seen : Seen) (table : RankTable) : Program CollectReport := do
  let version ← demand .version
  let kinds ← demand .kinds
  let scopes ← scopesToList options kinds
  let g ← gather options.tag seen (listings kinds scopes) .empty
  let doomed := deletionOrder table (KindInfo.scopes kinds) g.doomed
  collectAll (.forVersion version) options.dryRun doomed
    { considered := g.considered, deleted := [], wouldDelete := [], raced := 0
      forbiddenLists := g.forbiddenLists }

end Program

end Reconcile
