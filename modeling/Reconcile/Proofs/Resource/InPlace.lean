import Reconcile.Proofs.Cluster.Stamped
import Reconcile.Proofs.Resource.Unannotated

/-!
# Editing in place

Objects are edited and stamped in place: an edit goes into the object that it makes sure of under a key, a stamp
assigns to paths of keys. Either could get stuck on a value of the wrong shape. On a resource neither does, and
what each leaves behind is a resource: `Resource.inPlace?_fields` and `MemoryCluster.stampInPlace?_toJson`.
-/

namespace Reconcile

namespace Fields

/-- With an object under a key: an empty one is put in where there is none, in the place of anything else too. -/
def withSlot (key : String) (fields : Fields) : Fields :=
  match fields.object? key with
  | some _ => fields
  | none => fields.insert key (.object [])

/-- Changes the object under a key. Anything else there cannot be changed. -/
def changeObject? (key : String) (change : Fields → Option Fields) (fields : Fields) : Option Fields :=
  match fields.object? key with
  | some members => (change members).map fun changed => fields.insert key (.object changed)
  | none => none

/-- Changes the object under a key once there is one. -/
def changeSlot? (key : String) (change : Fields → Option Fields) (fields : Fields) : Option Fields :=
  (fields.withSlot key).changeObject? key change

/-- There always is an object to change. -/
theorem changeSlot?_eq (key : String) (change : Fields → Option Fields) (fields : Fields) :
    fields.changeSlot? key change =
      (change (fields.slot key)).map fun changed => fields.insert key (.object changed) := by
  rw [changeSlot?, withSlot, slot]
  cases hobject : fields.object? key with
  | some members => rw [changeObject?, hobject, Option.getD_some]
  | none =>
    have hmade : (fields.insert key (.object [])).object? key = some [] := by
      rw [object?_eq, get?_insert, if_pos rfl]
      rfl
    rw [changeObject?, hmade, Option.getD_none]
    simp only [insert_insert]

/-- Puts a text into a map of metadata. -/
def putEntry? (map key value : String) (fields : Fields) : Option Fields :=
  fields.changeSlot? "metadata" fun metadata =>
    metadata.changeSlot? map fun entries => some (entries.insert key (.string value))

end Fields

/-- Assigns a value at the end of a path of keys. What stands before a key has to be an object, or a null, which
becomes one. -/
def Json.assign? (value : Json) : List String → Json → Option Json
  | [], _ => some value
  | key :: rest, .object members =>
    (assign? value rest ((Fields.get? key members).getD .null)).map fun w => .object (Fields.insert key w members)
  | key :: rest, .null => (assign? value rest .null).map fun w => .object [(key, w)]
  | _ :: _, _ => none

namespace Resource

/-- A change of an object. -/
inductive Edit where
  /-- The object is put into a namespace. -/
  | scope (ns : String)
  /-- An annotation is set. -/
  | annotate (key value : String)
  /-- A label is set. -/
  | label (key value : String)
  /-- An annotation is taken away. -/
  | unannotate (key : String)
deriving DecidableEq

namespace Edit

/-- The object after an edit. -/
def apply : Edit → Resource → Resource
  | scope ns => setScope ns
  | annotate key value => setAnnotation key value
  | label key value => setLabel key value
  | unannotate key => removeAnnotation key

/-- Carries an edit out in the members of an object. -/
def inPlace? (fields : Fields) : Edit → Option Fields
  | scope ns => fields.changeSlot? "metadata" fun metadata => some (metadata.insert "namespace" (.string ns))
  | annotate key value => fields.putEntry? "annotations" key value
  | label key value => fields.putEntry? "labels" key value
  | unannotate key =>
    fields.changeSlot? "metadata" fun metadata =>
      match metadata.object? "annotations" with
      | none => some metadata
      | some entries =>
        match entries.erase key with
        | [] => some (metadata.erase "annotations")
        | left => some (metadata.insert "annotations" (.object left))

end Edit

variable {r : Resource}

/-- An object stays well formed when it is edited. -/
theorem wellFormed_apply (hwf : r.toJson.WellFormed) (e : Edit) : (e.apply r).toJson.WellFormed := by
  cases e with
  | scope ns => exact wellFormed_setScope hwf ns
  | annotate key value => exact wellFormed_setEntry hwf (by decide)
  | label key value => exact wellFormed_setEntry hwf (by decide)
  | unannotate key => exact wellFormed_removeAnnotation hwf key

/-- An entry of a map in the metadata can always be put in. -/
theorem putEntry?_fields (r : Resource) (map key value : String) (hname : map ≠ "name") :
    r.fields.putEntry? map key value = some (r.setEntry map key value hname).fields := by
  rw [Fields.putEntry?, Fields.changeSlot?_eq, Fields.changeSlot?_eq]
  rfl

/-- An edit in place does not get stuck, and does what it does to the object. -/
theorem inPlace?_fields (hwf : r.toJson.WellFormed) (e : Edit) : e.inPlace? r.fields = some (e.apply r).fields := by
  cases e with
  | scope ns =>
    rw [Edit.inPlace?, Fields.changeSlot?_eq]
    rfl
  | annotate key value => exact putEntry?_fields r _ key value (by decide)
  | label key value => exact putEntry?_fields r _ key value (by decide)
  | unannotate key =>
    rw [Edit.inPlace?, Fields.changeSlot?_eq, ← metadata, Edit.apply, removeAnnotation]
    cases r.metadata.object? "annotations" with
    | none =>
      exact congrArg some ((Json.wellFormed_object_iff.mp hwf).1.insert_of_get? r.get?_metadata)
    | some entries =>
      dsimp only
      cases entries.erase key <;> rfl

/-- A member of metadata that is no name can be assigned. -/
theorem assign?_metadata (r : Resource) (key : String) (value : Json) (h : key ≠ "name") :
    Json.assign? value ["metadata", key] r.toJson = some (r.setMeta key value h).toJson := by
  rw [toJson, Json.assign?, r.get?_metadata, Option.getD_some, Json.assign?, Json.assign?]
  rfl

end Resource

namespace MemoryCluster

/-- Stamps an object in place, with a given uid, the one that it states, or a fresh one. -/
def stampInPlace? (given : Option String) (fresh : String) (version : UInt64) (v : Json) : Option Json := do
  let uid := (given.or ((v.at? ["metadata", "uid"]).bind Json.string?)).getD fresh
  let v ← Json.assign? (.string uid) ["metadata", "uid"] v
  let v ← Json.assign? (.string (toString version)) ["metadata", "resourceVersion"] v
  if (v.at? ["metadata", "creationTimestamp"]).isSome then return v
  else Json.assign? (.string creationTime) ["metadata", "creationTimestamp"] v

/-- A stamp in place does not get stuck, and leaves what the cluster stores. -/
theorem stampInPlace?_toJson (c : MemoryCluster) (given : Option String) (r : Resource) :
    stampInPlace? given c.nextUid (c.lastVersion + 1) r.toJson =
      some (c.stamp given r).1.toJson := by
  obtain ⟨made, hstamp⟩ := stamp_eq c r given
  have hat (r : Resource) (key : String) : r.toJson.at? ["metadata", key] = r.metadata.get? key := by
    rw [Resource.at?_toJson_metadata]
    cases r.metadata.get? key <;> rfl
  have htime (uid version : Json) :
      ((r.setMeta "uid" uid).setMeta "resourceVersion" version).metadata.get? "creationTimestamp" =
        r.metadata.get? "creationTimestamp" := by
    rw [Resource.get?_metadata_setMeta_of_ne _ _ _ _ (by decide),
      Resource.get?_metadata_setMeta_of_ne _ _ _ _ (by decide)]
  rw [hstamp, stampInPlace?, hat, ← Fields.string?_eq]
  generalize (given.or (r.metadata.string? "uid")).getD c.nextUid = uid
  dsimp only [bind, pure]
  rw [Resource.assign?_metadata _ "uid" _ (by decide), Option.bind_some,
    Resource.assign?_metadata _ "resourceVersion" _ (by decide), Option.bind_some, hat, htime, ← Fields.has]
  obtain ⟨hhas, h⟩ | ⟨hhas, h⟩ := Resource.stampedWith_cases uid (c.lastVersion + 1) r <;> rw [hhas, h]
  · rfl
  · exact Resource.assign?_metadata _ "creationTimestamp" _ (by decide)

end MemoryCluster

end Reconcile
