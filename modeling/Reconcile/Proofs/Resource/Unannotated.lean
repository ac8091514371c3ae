import Reconcile.Proofs.Resource.Held
import Reconcile.Proofs.Resource.Recordable

/-!
# Objects without an annotation

An annotation is put into a map that may have to be made for it, and taking it away takes the map along
once that is empty. Either way nothing else changes, and what is left after taking it away does not
depend on whether it was there or which text it had.
-/

namespace Reconcile

namespace Fields

/-- Of two values put under one key the second stays. -/
theorem insert_insert (key : String) (v w : Json) (fields : Fields) :
    (fields.insert key v).insert key w = fields.insert key w := by
  induction fields with
  | nil => simp [insert]
  | cons member rest ih =>
    obtain ⟨k, u⟩ := member
    rw [insert.eq_def key v, insert.eq_def key w ((k, u) :: rest)]
    dsimp only
    split
    next => simp [insert]
    next hne =>
      split
      next => simp [insert]
      next hgt => rw [insert, if_neg hne, if_neg hgt, ih]

/-- What was put under a key does not count once the key is taken away. -/
theorem Rising.erase_insert {fields : Fields} (rising : fields.Rising) (key : String) (v : Json) :
    (fields.insert key v).erase key = fields.erase key := by
  refine Rising.ext ((rising.insert key v).erase key) (rising.erase key) fun other => ?_
  rw [get?_erase, get?_erase, get?_insert]
  split <;> rfl

end Fields

namespace Resource

/-- Objects with the same members are the same. -/
theorem eq_of_fields {r s : Resource} (h : r.fields = s.fields) : r = s := by
  cases r
  cases s
  cases h
  rfl

/-- Two objects with the same members outside of metadata and the same metadata are the same. -/
theorem eq_of_get? {r s : Resource} (hr : r.toJson.WellFormed) (hs : s.toJson.WellFormed)
    (hothers : ∀ key, key ≠ "metadata" → r.fields.get? key = s.fields.get? key)
    (hmetadata : ∀ key, r.metadata.get? key = s.metadata.get? key) : r = s := by
  have hmeta : r.metadata = s.metadata :=
    (Json.wellFormed_object_iff.mp (wellFormed_metadata hr)).1.ext
      (Json.wellFormed_object_iff.mp (wellFormed_metadata hs)).1 hmetadata
  have hfields : r.fields = s.fields := by
    refine (Json.wellFormed_object_iff.mp hr).1.ext (Json.wellFormed_object_iff.mp hs).1 fun key => ?_
    by_cases hkey : key = "metadata"
    · rw [hkey, get?_metadata, get?_metadata, hmeta]
    · exact hothers key hkey
  exact eq_of_fields hfields

/-- Two objects are the same outside of the annotations, and have the same annotations but for one. -/
structure SameBut (key : String) (r s : Resource) : Prop where
  fields : ∀ other, other ≠ "metadata" → s.fields.get? other = r.fields.get? other
  metadata : ∀ other, other ≠ "annotations" → s.metadata.get? other = r.metadata.get? other
  annotations : ∀ other, other ≠ key →
    (s.metadata.slot "annotations").get? other = (r.metadata.slot "annotations").get? other

variable (key : String) (r : Resource)

/-- An annotation that is put on changes nothing but itself. -/
theorem sameBut_setAnnotation (value : String) : r.SameBut key (r.setAnnotation key value) where
  fields other hother := by
    rw [ setAnnotation, setEntry, setMeta, fields_withMetadata, Fields.get?_insert, if_neg (Ne.symm hother)]
  metadata other hother := by rw [ metadata_setAnnotation, Fields.get?_insert, if_neg (Ne.symm hother)]
  annotations other hother := by
    rw [ metadata_setAnnotation, Fields.slot_insert_self, Fields.get?_insert, if_neg (Ne.symm hother)]

/-- Nor does one that is taken off. -/
theorem sameBut_removeAnnotation : r.SameBut key (r.removeAnnotation key) where
  fields _ hother := get?_removeAnnotation_of_ne key r hother
  metadata _ hother := get?_metadata_removeAnnotation_of_ne key r hother
  annotations other hother := by rw [ slot_removeAnnotation, Fields.get?_erase, if_neg (Ne.symm hother)]

/-- Of two texts given to one annotation the second stays. -/
theorem setAnnotation_setAnnotation (value other : String) :
    setAnnotation key other (r.setAnnotation key value) = r.setAnnotation key other := by
  have hmetadata : ( setAnnotation key other (r.setAnnotation key value)).metadata =
      (r.setAnnotation key other).metadata := by
    rw [ metadata_setAnnotation, metadata_setAnnotation, metadata_setAnnotation, Fields.slot_insert_self,
      Fields.insert_insert, Fields.insert_insert]
  have hfields (r : Resource) (value : String) :
      (r.setAnnotation key value).fields =
        r.fields.insert "metadata" (.object (r.setAnnotation key value).metadata) := by
    rw [ metadata_setAnnotation]
    rfl
  refine eq_of_fields ?_
  rw [hfields, hmetadata, hfields r value, Fields.insert_insert, ← hfields]

section Remove

variable {key r}

/-- The annotations that are left are the others, in no map at all when there are none. -/
theorem get?_annotations_removeAnnotation (h : r.metadata.MapAt "annotations") :
    (r.removeAnnotation key).metadata.get? "annotations" =
      if (r.metadata.slot "annotations").erase key = [] then none
      else some (.object ((r.metadata.slot "annotations").erase key)) := by
  rcases h.get?_eq with hnone | ⟨members, hmembers⟩
  · have hslot : r.metadata.object? "annotations" = none := by rw [Fields.object?_eq, hnone]; rfl
    rw [ removeAnnotation, hslot, Fields.slot, hslot]
    exact hnone
  · rw [ removeAnnotation, Fields.object?_of_get? hmembers, Fields.slot_of_get? hmembers]
    dsimp only
    split
    next hempty => rw [metadata_withMetadata, Fields.get?_erase, if_pos rfl, if_pos hempty]
    next hrest => rw [metadata_setMeta, Fields.get?_insert, if_pos rfl, if_neg hrest]

/-- An object stays well formed without an annotation. -/
theorem wellFormed_removeAnnotation (h : r.toJson.WellFormed) (key : String) :
    (r.removeAnnotation key).toJson.WellFormed := by
  have hmetadata := wellFormed_metadata h
  unfold removeAnnotation
  split
  next => exact h
  next members hmembers =>
    split
    next => exact h.insert "metadata" (hmetadata.erase "annotations")
    next =>
      have hslot := (Fields.wellFormed_slot hmetadata "annotations").erase key
      rw [Fields.slot, hmembers, Option.getD_some] at hslot
      exact wellFormed_setMeta h hslot (by decide)

/-- Other metadata that nests no deeper leaves the object no deeper. -/
theorem depth_withMetadata_le {members : Fields} {hname}
    (h : Json.fieldsDepth members ≤ Json.fieldsDepth r.metadata) :
    (r.withMetadata members hname).toJson.depth ≤ r.toJson.depth := by
  have hown := Json.depth_le_of_get? r.get?_metadata
  have hinsert := Json.fieldsDepth_insert_le "metadata" (.object members) r.fields
  rw [Json.depth_object] at hown hinsert
  rw [toJson, toJson, fields_withMetadata, Json.depth_object, Json.depth_object]
  omega

/-- Taking an annotation away nests the object no deeper. -/
theorem depth_removeAnnotation_le (key : String) (r : Resource) :
    (r.removeAnnotation key).toJson.depth ≤ r.toJson.depth := by
  unfold removeAnnotation
  split
  next => exact Nat.le_refl _
  next members hmembers =>
    split
    next => exact depth_withMetadata_le (Json.fieldsDepth_erase_le _ _)
    next =>
      have hown := Json.depth_le_of_get? (Fields.get?_of_object? hmembers)
      have herase := Json.fieldsDepth_erase_le key members
      have hinsert := Json.fieldsDepth_insert_le "annotations" (.object (members.erase key)) r.metadata
      rw [Json.depth_object] at hown hinsert
      exact depth_withMetadata_le (by omega)

/-- An annotation that was put in leaves nothing behind when it is taken away. -/
theorem removeAnnotation_setAnnotation (hwf : r.toJson.WellFormed) (h : r.metadata.MapAt "annotations")
    (value : String) : removeAnnotation key (r.setAnnotation key value) = r.removeAnnotation key := by
  have hset := sameBut_setAnnotation key r value
  have hslot : ((r.setAnnotation key value).metadata.slot "annotations").erase key =
      (r.metadata.slot "annotations").erase key := by
    have hslot := Fields.wellFormed_slot (wellFormed_metadata hwf) "annotations"
    rw [ metadata_setAnnotation, Fields.slot_insert_self, (Json.wellFormed_object_iff.mp hslot).1.erase_insert]
  have hmap : (r.setAnnotation key value).metadata.MapAt "annotations" := by
    rw [ metadata_setAnnotation]
    exact h.insert "annotations" _
  refine eq_of_get? ( wellFormed_removeAnnotation (wellFormed_setEntry hwf (by decide)) key)
    ( wellFormed_removeAnnotation hwf key) (fun other hother => ?_) fun other => ?_
  · rw [get?_removeAnnotation_of_ne key _ hother, get?_removeAnnotation_of_ne key _ hother,
      hset.fields other hother]
  · by_cases hother : other = "annotations"
    · rw [hother, get?_annotations_removeAnnotation hmap, get?_annotations_removeAnnotation h, hslot]
    · rw [get?_metadata_removeAnnotation_of_ne key _ hother, get?_metadata_removeAnnotation_of_ne key _ hother,
        hset.metadata other hother]

end Remove

end Resource

end Reconcile
