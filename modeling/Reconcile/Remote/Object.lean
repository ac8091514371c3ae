import Reconcile.Cluster.Kind
import Reconcile.Cluster.Version
import Reconcile.Remote.Form
import Reconcile.Resource

/-!
# Objects on the wire

Objects are sent and received with metadata of a known form; what else they hold goes through as it
is. A received object is of the kind that was asked for: the items of a list do not say their kind,
so it is written into each.
-/

namespace Reconcile.Remote

/-- The form of a reference to an owner. -/
def ownerForm : Form :=
  .completing ["apiVersion", "kind", "name", "uid"] (.record
    [("apiVersion", .text), ("blockOwnerDeletion", .truth), ("controller", .truth), ("kind", .text),
      ("name", .text), ("uid", .text)])

/-- The form of a record of who manages fields. -/
def managerForm : Form :=
  .record
    [("apiVersion", .text), ("fieldsType", .text), ("fieldsV1", some), ("manager", .text),
      ("operation", .text), ("subresource", .text), ("time", .instant)]

/-- The form of metadata. -/
def metadataForm : Form :=
  .record
    [("annotations", .mapOf .text), ("creationTimestamp", .instant), ("deletionGracePeriodSeconds", .wide),
      ("deletionTimestamp", .instant), ("finalizers", .listOf .text), ("generateName", .text),
      ("generation", .wide), ("labels", .mapOf .text), ("managedFields", .listOf managerForm),
      ("name", .text), ("namespace", .text), ("ownerReferences", .listOf ownerForm),
      ("resourceVersion", .text), ("selfLink", .text), ("uid", .text)]

/-- The members of an object with metadata of the known form; missing metadata is empty. -/
def objectFields? : Json → Option Fields
  | .object members => do
    let metadata ← metadataForm ((Fields.get? "metadata" members).getD (.object []))
    return Fields.insert "metadata" metadata members
  | _ => none

/-- An object as it is sent. -/
def sent (object : Resource) : Except ApiError Json :=
  match objectFields? object.toJson with
  | some members => .ok (.object members)
  | none => .error (.other (.layer .json))

/-- A received object of a kind. -/
def stamped (kind : KindInfo) (members : Fields) : Except ApiError Resource :=
  (Resource.ofFields ((members.insert "apiVersion" kind.gvk.apiVersion).insert "kind" kind.gvk.kind)).mapError
    fun e => .other (.model e)

/-- The form of the metadata of a list. -/
def listMetadataForm : Form :=
  .record [("continue", .text), ("remainingItemCount", .wide), ("resourceVersion", .text), ("selfLink", .text)]

/-- The members of the objects of a list; its items may be null. -/
def listItems? : Json → Option (List Fields)
  | .object members => do
    let _ ← listMetadataForm (← Fields.get? "metadata" members)
    match ← Fields.get? "items" members with
    | .null => return []
    | items => items.listOf? objectFields?
  | _ => none

/-- The form of the details of a status. -/
def detailsForm : Form :=
  .strict
    [("name", .text), ("group", .text), ("kind", .text), ("uid", .text), ("retryAfterSeconds", .natural32),
      ("causes", .listOf (.strict [("reason", .text), ("message", .text), ("field", .text)]))]

/-- The form of a status: its outcome and details may be null. -/
def statusForm : Form := fun v => do
  let v ← Form.strict [("code", .natural16), ("message", .text), ("reason", .text)] v *> some v
  Form.record [("status", .oneOf ["Success", "Failure"]), ("details", detailsForm)] v

/-- Whether a value is a fit answer to a deletion: a status or the object itself. -/
def isDeletionAnswer (v : Json) : Bool :=
  if v.get? "kind" = some (.string "Status") then (statusForm v).isSome else (objectFields? v).isSome

/-- What a deletion asks for. -/
def deletionBody (options : DeleteOptions) : Json :=
  .ofMembers ([("propagationPolicy", Json.string options.propagation.name)]
    ++ (options.gracePeriod.bind fun n => (Number.ofInt? n.toNat).map fun n =>
        ("gracePeriodSeconds", Json.number n)).toList
    ++ (options.uid.map fun uid => ("preconditions", Json.ofMembers [("uid", Json.string uid)])).toList)

end Reconcile.Remote
