import Reconcile.Cluster.Session
import Reconcile.Order.Basic

/-!
# Deletions

Every object given is deleted from the server, what depends on others first. Objects that are not
there are fine.
-/

namespace Reconcile

/-- What a deletion came to. -/
structure DeleteReport where
  deleted : List Identity
  /-- How many objects were not there. -/
  missing : Nat
  skippedUnknown : Nat
deriving DecidableEq

namespace Program

/-- Deletes one object of a kind. -/
def deleteOne (defaultScope : String) (options : DeleteOptions) (kind : KindInfo) (r : Resource)
    (report : DeleteReport) : Program DeleteReport := do
  let target := targetScope defaultScope kind r
  let object := r.placedIn target
  let description ← describe object
  tell (.deleting description)
  match ← request (.delete kind target object.name options) with
  | .ok _ => return { report with deleted := report.deleted ++ [object.identity] }
  | .error e =>
    if e.isNotFound then return { report with missing := report.missing + 1 }
    else .fail ((Failure.ofCause (.api e)).inContext ("error deleting " ++ description))

/-- Deletes objects, one after the other. -/
def deleteAll (defaultScope : String) (options : DeleteOptions) (ignoreUnknown : Bool) :
    List Resource → DeleteReport → Program DeleteReport
  | [], report => return report
  | r :: rest, report => do
    match ← kindOf ignoreUnknown r with
    | none =>
      deleteAll defaultScope options ignoreUnknown rest
        { report with skippedUnknown := report.skippedUnknown + 1 }
    | some kind =>
      let report ← deleteOne defaultScope options kind r report
      deleteAll defaultScope options ignoreUnknown rest report

/-- Deletes objects in the reverse of the order of creation. -/
def delete (defaultScope : String) (gracePeriod : Option UInt32) (ignoreUnknown : Bool)
    (table : RankTable) (objects : List Resource) : Program DeleteReport := do
  ofExcept ((checkDuplicates objects).mapError fun e => Failure.ofCause (.model e))
  let version ← demand .version
  let kinds ← demand .kinds
  let ordered := deletionOrder table (KindInfo.scopes kinds) objects
  let options : DeleteOptions := { DeleteOptions.forVersion version with gracePeriod }
  deleteAll defaultScope options ignoreUnknown ordered ⟨[], 0, 0⟩

end Program

end Reconcile
