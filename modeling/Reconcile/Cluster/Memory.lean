import Reconcile.Cluster.Program
import Reconcile.Cluster.Selector
import Reconcile.Cluster.Store
import Reconcile.MergePatch

/-!
# Clusters in memory

A server that keeps its objects in memory. Like a real one it knows an object by its kind, by its
namespace if the kind is namespaced, and by its name; it gives every object a uid that stays for as
long as the object does, and a new resource version at every change. Where its uids come from is up to
whoever sets it up, and its versions are numbers of 64 bits, which it does not count beyond. Requests
that fail change nothing.
-/

namespace Reconcile

/-- A server in memory. -/
structure MemoryCluster where
  kinds : List KindInfo
  version : ServerVersion
  objects : Store
  /-- The last resource version given out. -/
  lastVersion : UInt64
  /-- The uid that is made up for the `n`-th time. -/
  uids : Nat → {text : String // text ≠ ""}
  /-- How many uids were made up. -/
  madeUids : Nat
  /-- The listings that are not permitted, by the name of a kind and a namespace. -/
  forbidden : List (String × Option String)
  /-- The changes so far, in order. -/
  calls : List String
  /-- How often the server was asked about itself. -/
  discoveries : Nat

namespace MemoryCluster

/-- The kinds that every cluster in memory serves. -/
def standardKinds : List KindInfo :=
  let kind (group version kind plural : String) (scope : Scope) : KindInfo :=
    ⟨⟨group, version, kind⟩, plural, scope, KindInfo.everyVerb⟩
  [kind "" "v1" "Namespace" "namespaces" .cluster,
    kind "" "v1" "ConfigMap" "configmaps" .namespaced,
    kind "" "v1" "Secret" "secrets" .namespaced,
    kind "" "v1" "Service" "services" .namespaced,
    kind "" "v1" "Pod" "pods" .namespaced,
    kind "" "v1" "ReplicationController" "replicationcontrollers" .namespaced,
    kind "apps" "v1" "Deployment" "deployments" .namespaced,
    kind "rbac.authorization.k8s.io" "v1" "ClusterRole" "clusterroles" .cluster,
    kind "apiextensions.k8s.io" "v1" "CustomResourceDefinition" "customresourcedefinitions" .cluster,
    ⟨⟨"", "v1", "Binding"⟩, "bindings", .namespaced, ["create"]⟩]

/-- A number of twelve digits in the usual form of a uid. -/
def countedUid (n : Nat) : String :=
  let digits := (toString n).toList
  "00000000-0000-4000-8000-" ++ String.ofList (List.replicate (12 - digits.length) '0' ++ digits)

/-- No counted uid is empty. -/
theorem countedUid_ne_empty (n : Nat) : countedUid n ≠ "" := fun h =>
  absurd (String.append_eq_empty_iff.mp h).1 (by decide)

/-- The uids that are counted, one after the other. -/
def countedUids (n : Nat) : {text : String // text ≠ ""} := ⟨countedUid n, countedUid_ne_empty n⟩

/-- A cluster without objects that takes its uids from a source. -/
def emptyWith (uids : Nat → {text : String // text ≠ ""}) (kinds : List KindInfo)
    (version : ServerVersion) : MemoryCluster :=
  { kinds, version, objects := [], lastVersion := 0, uids, madeUids := 0, forbidden := [], calls := []
    discoveries := 0 }

/-- A cluster without objects that counts its uids. -/
def empty (kinds : List KindInfo) (version : ServerVersion) : MemoryCluster :=
  emptyWith countedUids kinds version

/-- The uid that is made up next. -/
def nextUid (c : MemoryCluster) : String := c.uids (c.madeUids + 1)

/-- Whether the last resource version there is was given out. Additions are checked, so a request that needs
another one is stopped there, before it has stored anything. -/
def versionsSpent (c : MemoryCluster) : Bool := c.lastVersion + 1 == 0

/-- When every object was created, so far as the cluster can tell. -/
def creationTime : String := "2024-01-01T00:00:00Z"

/-- The identity by which the cluster knows an object of a kind. -/
def key (kind : KindInfo) (scope : Option String) (name : String) : Identity :=
  ⟨kind.gvk, if kind.isNamespaced then scope else none, name⟩

/-- What a change is called: what was done, to what kind of object, and to which. -/
def callText (verb : String) (kind : KindInfo) (id : Identity) : String :=
  verb ++ " " ++ kind.plural ++ " " ++ qualifiedName id.scope id.name

/-- Puts in what the server keeps in an object: a uid, the next resource version and the time of
creation. A given uid comes before the one that the object states, and that before a new one. There is a
next version unless the versions are spent. -/
def stamp (uid : Option String) (object : Resource) (c : MemoryCluster) : Resource × MemoryCluster :=
  let version := c.lastVersion + 1
  let (uid, made) : String × Nat :=
    match uid.or (object.metadata.string? "uid") with
    | some uid => (uid, c.madeUids)
    | none => (c.nextUid, c.madeUids + 1)
  let stamped := (object.setUid uid).setMeta "resourceVersion" (toString version : String)
  let stamped :=
    if stamped.metadata.has "creationTimestamp" then stamped
    else stamped.setMeta "creationTimestamp" creationTime
  (stamped, { c with lastVersion := version, madeUids := made })

/-- Puts an object in, as if another client had created it. Once the versions are spent it stays out. -/
def insert (object : Resource) (c : MemoryCluster) : Resource × MemoryCluster :=
  if c.versionsSpent then (object, c)
  else
    let (stored, c) := c.stamp none object
    (stored, { c with objects := c.objects.insert stored.identity stored })

/-- Forbids to list a kind in a namespace, or across all of them. -/
def forbidList (kind : String) (scope : Option String) (c : MemoryCluster) : MemoryCluster :=
  { c with forbidden := (kind, scope) :: c.forbidden }

/-- What a request for a missing object is answered with. -/
def missing (kind : KindInfo) (name : String) : ApiError :=
  .notFound (kind.plural ++ " " ++ Text.quoted name ++ " not found")

/-- The object of a kind under a namespace and a name. -/
def get (kind : KindInfo) (scope : Option String) (name : String) (c : MemoryCluster) :
    Except ApiError Resource :=
  match c.objects.get? (key kind scope name) with
  | some object => .ok object
  | none => .error (missing kind name)

/-- Puts a new object in, in the namespace of the request if its kind is namespaced. -/
def create (kind : KindInfo) (scope : Option String) (object : Resource) (c : MemoryCluster) :
    Except ApiError Resource × MemoryCluster :=
  let id := key kind scope object.name
  match c.objects.get? id with
  | some _ => (.error (.alreadyExists (kind.plural ++ " " ++ Text.quoted object.name ++ " already exists")), c)
  | none =>
    if c.versionsSpent then (.error (.other .overflow), c)
    else
      let placed := match id.scope with
        | some ns => object.setScope ns
        | none => object
      let (stored, c) := c.stamp none placed
      (.ok stored,
        { c with objects := c.objects.insert id stored, calls := c.calls ++ [callText "create" kind id] })

/-- Merges a patch into an object that is there. It keeps its uid, whatever the patch says. -/
def patch (kind : KindInfo) (scope : Option String) (name : String) (patch : Json) (c : MemoryCluster) :
    Except ApiError Resource × MemoryCluster :=
  let id := key kind scope name
  match c.objects.get? id with
  | none => (.error (missing kind name), c)
  | some current =>
    match Resource.ofJson (MergePatch.apply patch current.toJson) with
    | .error e => (.error (.other (.model e)), c)
    | .ok patched =>
      if c.versionsSpent then (.error (.other .overflow), c)
      else
        let (stored, c) := c.stamp current.uid? patched
        (.ok stored,
          { c with objects := c.objects.insert id stored, calls := c.calls ++ [callText "patch" kind id] })

/-- Takes an object away, unless a uid was asked for and the object has another one. -/
def delete (kind : KindInfo) (scope : Option String) (name : String) (options : DeleteOptions)
    (c : MemoryCluster) : Except ApiError Unit × MemoryCluster :=
  let id := key kind scope name
  match c.objects.get? id with
  | none => (.error (missing kind name), c)
  | some current =>
    if options.uid.isSome && current.uid? != options.uid then
      (.error (.conflict
        ("precondition failed: uid " ++ options.uid.getD "" ++ " does not match")), c)
    else
      let call := callText "delete" kind id ++ " (" ++ options.propagation.name ++ ")"
      (.ok (), { c with objects := c.objects.erase id, calls := c.calls ++ [call] })

/-- The objects of a kind, in one namespace or in all, that a selector admits. -/
def list (kind : KindInfo) (scope : Option String) (selector : Option String) (c : MemoryCluster) :
    Except ApiError (List Resource) :=
  if c.forbidden.contains (kind.gvk.kind, scope) then
    .error (.forbidden ("cannot list " ++ kind.plural ++ " in " ++ Text.quotedOption scope))
  else
    let within := c.objects.filter fun entry =>
      entry.1.gvk == kind.gvk && (scope.isNone || entry.1.scope == scope)
    .ok ((Store.objects within).filter fun object => selector.all fun text => (Selector.parse text).holds object)

/-- Answers requests from memory. -/
def server : Server MemoryCluster where
  answer
    | .version, c => (.ok c.version, { c with discoveries := c.discoveries + 1 })
    | .kinds, c => (.ok c.kinds, { c with discoveries := c.discoveries + 1 })
    | .get kind scope name, c => (c.get kind scope name, c)
    | .create kind scope object, c => c.create kind scope object
    | .patch kind scope name patch, c => c.patch kind scope name patch
    | .delete kind scope name options, c => c.delete kind scope name options
    | .list kind scope selector, c => (c.list kind scope selector, c)

end MemoryCluster

end Reconcile
