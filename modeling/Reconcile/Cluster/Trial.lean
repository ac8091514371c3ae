import Reconcile.Cluster.Memory

/-!
# Clusters under trial

A cluster in memory that records what it is asked for and is disturbed on purpose. Before a
request is served, another client may step in (a race), and the request may then fail without
being served (a fault). Both are planned ahead; a race happens once.
-/

namespace Reconcile

/-- The kinds of requests. -/
inductive RequestKind where
  | version | kinds | get | create | patch | delete | list
deriving DecidableEq

namespace Request

/-- The kind of a request. -/
def requestKind : Request → RequestKind
  | .version => .version
  | .kinds => .kinds
  | .get .. => .get
  | .create .. => .create
  | .patch .. => .patch
  | .delete .. => .delete
  | .list .. => .list

/-- The kind of object, the namespace and the name that a request is about; a listing has no
name. -/
def target? : Request → Option (KindInfo × Option String × String)
  | .version | .kinds => none
  | .get kind scope name => some (kind, scope, name)
  | .create kind scope object => some (kind, scope, object.name)
  | .patch kind scope name _ => some (kind, scope, name)
  | .delete kind scope name _ => some (kind, scope, name)
  | .list kind scope _ => some (kind, scope, "")

end Request

/-- What another client does to the object that a request is about. -/
inductive Interference where
  /-- The object is deleted. -/
  | vanish
  /-- The object is deleted and created anew, so that it gets another uid. -/
  | replace
  /-- An object is put in. -/
  | put (object : Resource)

/-- An interference before the next request of a kind about a name. -/
structure PlannedRace where
  call : RequestKind
  name : String
  act : Interference

/-- An error for all requests of a kind that fit what else is given. -/
structure PlannedFault where
  call : RequestKind
  kind : Option String
  scope : Option String
  name : Option String
  error : ApiError
  /-- For how many requests it still holds; for all without a number. -/
  uses : Option Nat

namespace PlannedRace

/-- Whether it is the turn of a race. -/
def fits (r : Request) (race : PlannedRace) : Bool :=
  race.call == r.requestKind && r.target?.any fun (_, _, name) => name == race.name

end PlannedRace

namespace PlannedFault

/-- Whether a fault holds for a request; an absent namespace or name counts as empty. -/
def fits (r : Request) (fault : PlannedFault) : Bool :=
  let (kind, scope, name) :=
    match r.target? with
    | some (kind, scope, name) => (kind.gvk.kind, scope.getD "", name)
    | none => ("", "", "")
  fault.call == r.requestKind && fault.uses != some 0 && fault.kind.all (· == kind)
    && fault.scope.all (· == scope) && fault.name.all (· == name)

/-- The fault after it held once more. -/
def used (fault : PlannedFault) : PlannedFault := { fault with uses := fault.uses.map (· - 1) }

end PlannedFault

/-- A cluster in memory with its disturbances. -/
structure Trial where
  cluster : MemoryCluster
  /-- The kinds that the cluster does not tell of. -/
  hidden : List String
  races : List PlannedRace
  faults : List PlannedFault
  /-- The requests so far, in order. -/
  requests : List Request

namespace Trial

/-- Takes the first entry that fits out of a list. -/
def takeFirst {α : Type} (fits : α → Bool) : List α → Option (α × List α)
  | [] => none
  | a :: rest =>
    if fits a then some (a, rest)
    else (takeFirst fits rest).map fun (found, others) => (found, a :: others)

/-- Changes the first entry that fits. -/
def modifyFirst {α : Type} (fits : α → Bool) (f : α → α) : List α → List α
  | [] => []
  | a :: rest => if fits a then f a :: rest else a :: modifyFirst fits f rest

/-- Another client's deletion. -/
def foreignDelete (kind : KindInfo) (scope : Option String) (name : String) (c : MemoryCluster) :
    Except ApiError Unit × MemoryCluster :=
  c.delete kind scope name ⟨none, .foreground, none⟩

/-- Another client's doing. -/
def interfere (act : Interference) (kind : KindInfo) (scope : Option String) (name : String)
    (c : MemoryCluster) : Except ApiError Unit × MemoryCluster :=
  match act with
  | .vanish => foreignDelete kind scope name c
  | .put object => (.ok (), (c.insert object).2)
  | .replace =>
    match c.get kind scope name with
    | .error e => (.error e, c)
    | .ok object =>
      match foreignDelete kind scope name c with
      | (.error e, c) => (.error e, c)
      | (.ok (), c) => (.ok (), (c.insert (object.setUid .null)).2)

/-- Lets the race happen whose turn it is. -/
def race (r : Request) (t : Trial) : Except ApiError Unit × Trial :=
  match takeFirst (·.fits r) t.races, r.target? with
  | some (race, others), some (kind, scope, name) =>
    let (result, cluster) := interfere race.act kind scope name t.cluster
    (result, { t with races := others, cluster := cluster })
  | _, _ => (.ok (), t)

/-- Serves a request, without the kinds that are hidden. -/
def serve : (r : Request) → Trial → r.Answer × Trial
  | .kinds, t =>
    let (answer, cluster) := MemoryCluster.server.answer .kinds t.cluster
    (answer.map fun kinds => kinds.filter fun kind => !t.hidden.contains kind.gvk.kind,
      { t with cluster := cluster })
  | r, t =>
    let (answer, cluster) := MemoryCluster.server.answer r t.cluster
    (answer, { t with cluster := cluster })

/-- Records a request and serves it unless a race or a fault gets in its way. -/
def answer (r : Request) (t : Trial) : r.Answer × Trial :=
  match race r { t with requests := t.requests ++ [r] } with
  | (.error e, t) => (.error e, t)
  | (.ok (), t) =>
    match t.faults.find? (·.fits r) with
    | some fault => (.error fault.error, { t with faults := modifyFirst (·.fits r) (·.used) t.faults })
    | none => serve r t

/-- Answers requests under trial. -/
def server : Server Trial := ⟨answer⟩

end Trial

end Reconcile
