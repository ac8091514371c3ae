import Reconcile.Proofs.Command.Target
import Reconcile.Proofs.Json.Depth
import Reconcile.Proofs.Resource.Patched

/-!
# Objects fit to be recorded

A snapshot is read back only if it is not nested too deep, and it comes out of a marked object as it
went in only if annotations and labels are maps where they are at all. `Resource.Recordable` says
both, and every edit of a namespace, an annotation or a label keeps it.
-/

namespace Reconcile

open Json (fieldsDepth WellFormed)

namespace Fields

/-- What is under a key, if anything, is a map. -/
def MapAt (map : String) (fields : Fields) : Prop := (fields.get? map).all Json.isObject = true

/-- Whether something is a map where it is at all can be decided. -/
instance (map : String) (fields : Fields) : Decidable (fields.MapAt map) :=
  inferInstanceAs (Decidable (_ = true))

variable {map key : String} {fields : Fields}

/-- Such a map is missing or an object. -/
theorem MapAt.get?_eq (h : fields.MapAt map) :
    fields.get? map = none ∨ ∃ members, fields.get? map = some (.object members) := by
  rw [MapAt] at h
  rcases hget : fields.get? map with _ | v
  · exact .inl rfl
  · rw [hget] at h
    cases v with
    | object members => exact .inr ⟨members, rfl⟩
    | _ => simp [Json.isObject] at h

/-- Whether it is one depends on what is found alone. -/
theorem MapAt.congr {other : Fields} (h : fields.MapAt map) (hget : other.get? map = fields.get? map) :
    other.MapAt map := by
  rwa [MapAt, hget]

/-- Replacing the value under a key by a map leaves all maps. -/
theorem MapAt.insert (h : fields.MapAt map) (key : String) (members : Fields) :
    (fields.insert key (.object members)).MapAt map := by
  rw [MapAt, get?_insert]
  split
  · rfl
  · exact h

/-- So does erasing a member. -/
theorem MapAt.erase (h : fields.MapAt map) (key : String) : (fields.erase key).MapAt map := by
  rw [MapAt, get?_erase]
  split
  · rfl
  · exact h

/-- The members of a map nest less deep than the object that has it. -/
theorem fieldsDepth_slot_le {n : Nat} (h : fieldsDepth fields ≤ n + 1) (key : String) :
    fieldsDepth (fields.slot key) ≤ n := by
  rw [slot]
  cases hslot : fields.object? key with
  | none => exact Nat.zero_le n
  | some members =>
    have hmember := Json.depth_le_of_get? (get?_of_object? hslot)
    rw [Json.depth_object] at hmember
    rw [Option.getD_some]
    omega

end Fields

namespace Resource

/-- An object whose snapshot can be read back: it is nested at most 120 levels deep, and its
annotations and labels are maps where they are at all. -/
structure Recordable (r : Resource) : Prop where
  wellFormed : r.toJson.WellFormed
  depth : r.toJson.depth ≤ 120
  annotations : r.metadata.MapAt "annotations"
  labels : r.metadata.MapAt "labels"

namespace Recordable

variable {r : Resource} (h : r.Recordable)

include h

/-- The metadata of an input that can be recorded is not nested too deep. -/
theorem depth_metadata : fieldsDepth r.metadata ≤ 118 := by
  have hdepth := h.depth
  rw [toJson, Json.depth_object] at hdepth
  exact Fields.fieldsDepth_slot_le (by omega) _

/-- Other metadata that is no worse leaves the object recordable. -/
theorem withMetadata {members : Fields} {hname} (hwf : WellFormed (.object members))
    (hdepth : fieldsDepth members ≤ 118) (hannotations : members.MapAt "annotations")
    (hlabels : members.MapAt "labels") : (r.withMetadata members hname).Recordable where
  wellFormed := h.wellFormed.insert "metadata" hwf
  depth := by
    have hown := h.depth
    have hinsert := Json.fieldsDepth_insert_le "metadata" (.object members) r.fields
    rw [toJson, Json.depth_object] at hown
    rw [Json.depth_object] at hinsert
    rw [toJson, fields_withMetadata, Json.depth_object]
    omega
  annotations := by rwa [metadata_withMetadata]
  labels := by rwa [metadata_withMetadata]

/-- A map that is no worse than those of the object may be put into metadata. -/
theorem setMap {map : String} {members : Fields} {hname : map ≠ "name"}
    (hwf : WellFormed (.object members)) (hdepth : fieldsDepth members ≤ 117) :
    (r.setMeta map (.object members) hname).Recordable := by
  refine h.withMetadata ((wellFormed_metadata h.wellFormed).insert map hwf) ?_
    (h.annotations.insert map members) (h.labels.insert map members)
  have hown := h.depth_metadata
  have hinsert := Json.fieldsDepth_insert_le map (.object members) r.metadata
  rw [Json.depth_object] at hinsert
  omega

/-- An input can be recorded with another namespace. -/
theorem setScope (ns : String) : (r.setScope ns).Recordable := by
  rw [Resource.setScope, setMeta]
  refine h.withMetadata ((wellFormed_metadata h.wellFormed).insert "namespace" (.string ns)) ?_
    (h.annotations.congr ?_) (h.labels.congr ?_)
  · have hown := h.depth_metadata
    have hinsert := Json.fieldsDepth_insert_le "namespace" (.string ns) r.metadata
    rw [Json.depth_string] at hinsert
    omega
  all_goals rw [Fields.get?_insert, if_neg (by decide)]

/-- It can be recorded with an entry more. -/
theorem setEntry {map key value : String} (hname : map ≠ "name") :
    (r.setEntry map key value hname).Recordable := by
  refine h.setMap ((Fields.wellFormed_slot (wellFormed_metadata h.wellFormed) map).insert key
    (.string value)) ?_
  have hslot := Fields.fieldsDepth_slot_le h.depth_metadata map
  have hinsert := Json.fieldsDepth_insert_le key (.string value) (r.metadata.slot map)
  rw [Json.depth_string] at hinsert
  omega

/-- It can be recorded with an annotation less. -/
theorem unannotated (key : String) : (r.removeAnnotation key).Recordable := by
  unfold Resource.removeAnnotation
  split
  · exact h
  next annotations hannotations =>
    have hslot : r.metadata.slot "annotations" = annotations := by
      rw [Fields.slot, hannotations, Option.getD_some]
    split
    · exact h.withMetadata ((wellFormed_metadata h.wellFormed).erase "annotations")
        (Nat.le_trans (Json.fieldsDepth_erase_le _ _) h.depth_metadata) (h.annotations.erase _) (h.labels.erase _)
    · refine h.setMap ?_ ?_
      · exact hslot ▸ (Fields.wellFormed_slot (wellFormed_metadata h.wellFormed) "annotations").erase key
      · exact Nat.le_trans (Json.fieldsDepth_erase_le key annotations)
          (hslot ▸ Fields.fieldsDepth_slot_le h.depth_metadata "annotations")

/-- It can be recorded where it is placed. -/
theorem placedIn (target : Option String) : (r.placedIn target).Recordable :=
  placedIn_keeps (P := Recordable) (fun _ ns h => h.setScope ns) h

/-- It can be recorded with its mark. -/
theorem marked (tag : Option String) : (r.marked tag).Recordable :=
  marked_keeps (P := Recordable) (fun _ _ _ _ hname h => h.setEntry hname) h

end Recordable

end Resource

end Reconcile
