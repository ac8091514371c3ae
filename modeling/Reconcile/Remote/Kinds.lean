import Reconcile.Cluster.Kind
import Reconcile.Cluster.Version
import Reconcile.Remote.Exchange
import Reconcile.Remote.Form

/-!
# Asking for the kinds that are served

A host lists its groups, the versions of each group and the entries of each version. An entry whose
name holds a slash is a part of another one and does not count. The core group, which has no name, is
listed apart. The kinds come in the order of their names; of entries for one kind those of the more
mature version come first.
-/

namespace Reconcile.Remote

/-- An entry of a version of a group. -/
structure ServedEntry where
  name : String
  kind : String
  namespaced : Bool
  verbs : List String
  group : Option String
  version : Option String

/-- The entries of a version of a group. -/
structure ServedEntries where
  groupVersion : String
  entries : List ServedEntry

/-- A version of a group, by name and together with the group. -/
structure VersionName where
  version : String
  groupVersion : String

/-- A group and its versions. -/
structure ServedGroup where
  name : String
  versions : List VersionName

/-- The members of an object that may say its kind but no other than the one expected. -/
def ofKind? (kind : String) (v : Json) : Option Fields := do
  let members ← v.object?
  let agrees (key expected : String) : Bool := ((members.get? key).getD expected).string? == some expected
  if agrees "apiVersion" "v1" && agrees "kind" kind then some members else none

/-- Reads a list of texts. -/
def texts? : Json → Option (List String) := Json.listOf? Json.string?

namespace ServedEntry

/-- Reads an entry. -/
def ofJson? (v : Json) : Option ServedEntry := do
  let members ← v.object?
  let _ ← members.maybe? "categories" texts?
  let _ ← members.maybe? "shortNames" texts?
  let _ ← members.maybe? "singularName" Json.string?
  let _ ← members.maybe? "storageVersionHash" Json.string?
  return {
    name := ← members.read? "name" Json.string?
    kind := ← members.read? "kind" Json.string?
    namespaced := ← members.read? "namespaced" Json.bool?
    verbs := ← members.read? "verbs" texts?
    group := ← members.maybe? "group" Json.string?
    version := ← members.maybe? "version" Json.string? }

end ServedEntry

namespace ServedEntries

/-- Reads the entries of a version. -/
def ofJson? (v : Json) : Option ServedEntries := do
  let members ← ofKind? "APIResourceList" v
  return ⟨← members.read? "groupVersion" Json.string?,
    ← members.read? "resources" (Json.listOf? ServedEntry.ofJson?)⟩

/-- The kinds of the entries; what can be done with one is told by the first entry of its name. -/
def kinds (list : ServedEntries) : List KindInfo :=
  let whole := list.entries.filter fun entry => !entry.name.contains '/'
  whole.map fun entry =>
    let named := Gvk.ofApiVersion list.groupVersion entry.kind
    let told := (list.entries.find? (·.name == entry.name)).getD entry
    { gvk := ⟨entry.group.getD named.group, entry.version.getD named.version, entry.kind⟩
      plural := entry.name
      scope := if told.namespaced then .namespaced else .cluster
      verbs := told.verbs }

end ServedEntries

namespace VersionName

/-- Reads the name of a version. -/
def ofJson? (v : Json) : Option VersionName := do
  let members ← v.object?
  return ⟨← members.read? "version" Json.string?, ← members.read? "groupVersion" Json.string?⟩

end VersionName

/-- Reads the addresses at which a client finds the host, which do not matter. -/
def clientAddress? (v : Json) : Option Unit := do
  let members ← v.object?
  let _ ← members.maybe? "clientCIDR" Json.string?
  let _ ← members.maybe? "serverAddress" Json.string?

namespace ServedGroup

/-- Reads a group. -/
def ofJson? (v : Json) : Option ServedGroup := do
  let members ← ofKind? "APIGroup" v
  let _ ← members.maybe? "preferredVersion" VersionName.ofJson?
  let _ ← members.maybe? "serverAddressByClientCIDRs" (Json.listOf? clientAddress?)
  return ⟨← members.read? "name" Json.string?, ← members.read? "versions" (Json.listOf? VersionName.ofJson?)⟩

/-- Reads the groups. -/
def listOfJson? (v : Json) : Option (List ServedGroup) := do
  (← ofKind? "APIGroupList" v).read? "groups" (Json.listOf? ofJson?)

end ServedGroup

/-- Reads the versions of the core group. -/
def coreVersions? (v : Json) : Option (List String) := do
  let members ← ofKind? "APIVersions" v
  let _ ← members.maybe? "serverAddressByClientCIDRs" (Json.listOf? clientAddress?)
  members.read? "versions" texts?

/-- How mature a version is: its stage (3 when released, 2 for beta, 1 for alpha, 0 for a name of
another form), its number, and its number within the stage. -/
structure Maturity where
  stage : Nat
  major : Nat
  minor : Option Nat

namespace Maturity

/-- Reads a version such as `v2beta1`. -/
def ofVersion? (version : String) : Option Maturity := do
  match version.toList with
  | 'v' :: rest =>
    let major ← ServerVersion.parseNumber (rest.takeWhile Char.isDigit)
    let staged (stage : Nat) (suffix : List Char) : Option Maturity :=
      if suffix.isEmpty then some ⟨stage, major.toNat, none⟩
      else (ServerVersion.parseNumber suffix).map fun minor => ⟨stage, major.toNat, some minor.toNat⟩
    match rest.dropWhile Char.isDigit with
    | [] => some ⟨3, major.toNat, none⟩
    | 'b' :: 'e' :: 't' :: 'a' :: suffix => staged 2 suffix
    | 'a' :: 'l' :: 'p' :: 'h' :: 'a' :: suffix => staged 1 suffix
    | _ => none
  | _ => none

/-- Compares two versions, names of another form by their text, the later one being less mature. -/
def compareVersions (v w : String) : Ordering :=
  match ofVersion? v, ofVersion? w with
  | some a, some b =>
    (Ord.compare a.stage b.stage).then ((Ord.compare a.major b.major).then (Ord.compare a.minor b.minor))
  | some _, none => .gt
  | none, some _ => .lt
  | none, none => Ord.compare w v

end Maturity

/-- The kinds of a group, the more mature versions first; of two versions of one name the first
counts in both places. -/
def groupKinds (versions : List (String × ServedEntries)) : List KindInfo :=
  let ordered := versions.mergeSort fun a b => Maturity.compareVersions a.1 b.1 != .lt
  ordered.flatMap fun entry => ((ordered.lookup entry.1).getD entry.2).kinds

namespace Exchange

variable {σ : Type}

/-- Asks for the kinds of a group. A group has versions. -/
def groupKinds (host : Http.Host σ) (root : String) (versions : List VersionName) :
    Exchange σ (List KindInfo) := do
  if versions.isEmpty then throw misunderstood
  let lists ← versions.mapM fun version => do
    return (version.version, ← need (ServedEntries.ofJson? (← fetch host (root ++ version.groupVersion))))
  return Remote.groupKinds lists

/-- Asks for the kinds of all groups. Of two groups of one name the last counts. -/
def kinds (host : Http.Host σ) : Exchange σ (List KindInfo) := do
  let groups ← need (ServedGroup.listOfJson? (← fetch host "/apis"))
  let named ← groups.mapM fun group => do return (group.name, ← groupKinds host "/apis/" group.versions)
  let core ← need (coreVersions? (← fetch host "/api"))
  let coreKinds ← groupKinds host "/api/" (core.map fun version => ⟨version, version⟩)
  let latest := (named ++ [("", coreKinds)]).foldl (fun found group =>
    found.filter (·.1 != group.1) ++ [group]) []
  return (latest.flatMap (·.2)).mergeSort fun a b => a.gvk.compare b.gvk != .gt

end Exchange

end Reconcile.Remote
