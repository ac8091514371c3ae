import Reconcile.Proofs.Resource.Held
import Reconcile.Proofs.Resource.Recordable

/-!
# Snapshots beside configs

A snapshot is of the config as it was submitted: in its namespace, and marked with the tag of the run.
A comparison takes the tag out on both sides, and with it the maps that are empty then.
`Resource.stripGcTag_recorded` says that the two sides are the same after it, so whoever finds the
snapshot of a config finds no differences from it.
-/

namespace Reconcile

open Json (WellFormed)

namespace Fields

/-- A map as a member of an object, which an empty one is not. -/
def asMember : Fields → Option Json
  | [] => none
  | members => some (.object members)

section EraseWithin

variable {map : String} {fields : Fields} (h : fields.MapAt map) (entry : String)

include h

/-- Taking a key out of a map leaves everything as it is where there is no map. -/
theorem eraseWithin_cases :
    (fields.get? map = none ∧ fields.eraseWithin map [entry] = fields) ∨
      ∃ members, fields.get? map = some (.object members) ∧
        fields.eraseWithin map [entry] =
          match Fields.erase entry members with
          | [] => fields.erase map
          | rest => fields.insert map (.object rest) := by
  obtain hnone | ⟨members, hmembers⟩ := h.get?_eq
  · have hobject : fields.object? map = none := by rw [object?_eq, hnone, Option.bind_none]
    exact .inl ⟨hnone, by simp only [eraseWithin, hobject]⟩
  · refine .inr ⟨members, hmembers, ?_⟩
    simp only [eraseWithin, object?_of_get? hmembers]
    rfl

/-- It touches that map alone, and drops it once it is empty. -/
theorem get?_eraseWithin (key : String) :
    (fields.eraseWithin map [entry]).get? key =
      if map = key then asMember ((fields.slot map).erase entry) else fields.get? key := by
  obtain ⟨hnone, hstays⟩ | ⟨members, hmembers, herased⟩ := eraseWithin_cases h entry
  · rw [hstays, slot, object?_eq, hnone]
    split
    next hkey => rw [← hkey, hnone]; rfl
    next => rfl
  · rw [herased, slot_of_get? hmembers]
    cases Fields.erase entry members with
    | nil => exact get?_erase key map fields
    | cons member rest => exact get?_insert key map _ fields

end EraseWithin

section WellFormed

variable {fields : Fields} (h : WellFormed (.object fields))

include h

/-- An object in a well-formed one is well formed. -/
theorem wellFormed_of_object? {key : String} {inner : Fields} (hinner : fields.object? key = some inner) :
    WellFormed (.object inner) :=
  (Json.wellFormed_object_iff.mp h).2 key _ (get?_of_object? hinner)

/-- Members stay well formed without some of them. -/
theorem wellFormed_eraseAll (keys : List String) : WellFormed (.object (fields.eraseAll keys)) := by
  induction keys generalizing fields with
  | nil => exact h
  | cons key rest ih => exact ih (h.erase key)

/-- They stay well formed when a map among them loses entries. -/
theorem wellFormed_eraseWithin (map : String) (keys : List String) :
    WellFormed (.object (fields.eraseWithin map keys)) := by
  rw [Fields.eraseWithin]
  split
  next => exact h
  next inner hinner =>
    have hrest := wellFormed_eraseAll (wellFormed_of_object? h hinner) keys
    split
    next => exact h.erase map
    next => exact h.insert map hrest

/-- They stay well formed when one of them is changed to something well formed. -/
theorem wellFormed_modifyObject (key : String) {f : Fields → Fields}
    (hf : ∀ inner, WellFormed (.object inner) → WellFormed (.object (f inner))) :
    WellFormed (.object (fields.modifyObject key f)) := by
  rw [Fields.modifyObject]
  split
  next inner hinner => exact h.insert key (hf inner (wellFormed_of_object? h hinner))
  next => exact h

end WellFormed

end Fields

/-- Without the tag a value stays well formed. -/
theorem Json.wellFormed_stripGcTag {v : Json} (h : v.WellFormed) : v.stripGcTag.WellFormed := by
  cases v with
  | object members =>
    exact Fields.wellFormed_modifyObject h "metadata" fun metadata hmetadata =>
      Fields.wellFormed_eraseWithin (Fields.wellFormed_eraseWithin hmetadata _ _) _ _
  | _ => exact h

namespace Resource

/-- The metadata without the tag. -/
def untagged (r : Resource) : Fields :=
  (r.metadata.eraseWithin "annotations" [AnnotationKey.gcTag]).eraseWithin "labels" [Label.gcTag]

/-- Taking the tag off an object changes its metadata alone. -/
theorem stripGcTag_toJson (r : Resource) :
    r.toJson.stripGcTag = .object (r.fields.insert "metadata" (.object r.untagged)) := by
  simp only [Json.stripGcTag, toJson, Json.mapFields, Fields.modifyObject,
    Fields.object?_of_get? r.get?_metadata]
  rfl

section Untagged

variable {r : Resource} (h : r.Recordable)

include h

/-- The labels are a map whether or not there is a tag among the annotations. -/
theorem mapAt_labels : (r.metadata.eraseWithin "annotations" [AnnotationKey.gcTag]).MapAt "labels" :=
  h.labels.congr (by rw [Fields.get?_eraseWithin h.annotations, if_neg (by decide)])

/-- Only annotations and labels can be others without the tag. -/
theorem get?_untagged (key : String) :
    r.untagged.get? key =
      if "labels" = key then Fields.asMember ((r.metadata.slot "labels").erase Label.gcTag)
      else if "annotations" = key then
        Fields.asMember ((r.metadata.slot "annotations").erase AnnotationKey.gcTag)
      else r.metadata.get? key := by
  have hlabels : Fields.slot "labels" (r.metadata.eraseWithin "annotations" [AnnotationKey.gcTag]) =
      r.metadata.slot "labels" :=
    Fields.slot_congr (by rw [Fields.get?_eraseWithin h.annotations, if_neg (by decide)])
  rw [untagged, Fields.get?_eraseWithin (mapAt_labels h), Fields.get?_eraseWithin h.annotations, hlabels]

/-- The metadata without a tag is well formed. -/
theorem wellFormed_untagged : WellFormed (.object r.untagged) :=
  Fields.wellFormed_eraseWithin (Fields.wellFormed_eraseWithin (wellFormed_metadata h.wellFormed) _ _) _ _

end Untagged

/-- Two objects are the same but for the tag. -/
structure SameUntagged (a b : Resource) : Prop where
  others : ∀ key, key ≠ "metadata" → a.fields.get? key = b.fields.get? key
  metadata : ∀ key, key ≠ "annotations" → key ≠ "labels" → a.metadata.get? key = b.metadata.get? key
  annotations : ∀ key, key ≠ AnnotationKey.gcTag →
    (a.metadata.slot "annotations").get? key = (b.metadata.slot "annotations").get? key
  labels : ∀ key, key ≠ Label.gcTag →
    (a.metadata.slot "labels").get? key = (b.metadata.slot "labels").get? key

/-- Being the same but for tags carries over. -/
theorem SameUntagged.trans {a b c : Resource} (h : SameUntagged a b) (h' : SameUntagged b c) :
    SameUntagged a c where
  others key hkey := (h.others key hkey).trans (h'.others key hkey)
  metadata key ha hl := (h.metadata key ha hl).trans (h'.metadata key ha hl)
  annotations key hkey := (h.annotations key hkey).trans (h'.annotations key hkey)
  labels key hkey := (h.labels key hkey).trans (h'.labels key hkey)

/-- Two maps that agree except in one entry are the same without it. -/
theorem erase_slot_eq {a b : Resource} (ha : a.toJson.WellFormed) (hb : b.toJson.WellFormed)
    {map entry : String} (h : ∀ key, key ≠ entry →
      (a.metadata.slot map).get? key = (b.metadata.slot map).get? key) :
    (a.metadata.slot map).erase entry = (b.metadata.slot map).erase entry := by
  have hrising {r : Resource} (hwf : r.toJson.WellFormed) :=
    (Json.wellFormed_object_iff.mp (Fields.wellFormed_slot (wellFormed_metadata hwf) map)).1
  refine ((hrising ha).erase entry).ext ((hrising hb).erase entry) fun key => ?_
  rw [Fields.get?_erase, Fields.get?_erase]
  split
  next => rfl
  next hkey => exact h key (Ne.symm hkey)

/-- What is the same but for the tag is the same without it. -/
theorem SameUntagged.stripGcTag_eq {a b : Resource} (h : SameUntagged a b) (ha : a.Recordable)
    (hb : b.Recordable) : a.toJson.stripGcTag = b.toJson.stripGcTag := by
  have hannotations := erase_slot_eq ha.wellFormed hb.wellFormed h.annotations
  have hlabels := erase_slot_eq ha.wellFormed hb.wellFormed h.labels
  have huntagged : a.untagged = b.untagged := by
    refine (Json.wellFormed_object_iff.mp (wellFormed_untagged ha)).1.ext
      (Json.wellFormed_object_iff.mp (wellFormed_untagged hb)).1 fun key => ?_
    rw [get?_untagged ha, get?_untagged hb, hannotations, hlabels]
    split
    next => rfl
    next hl =>
      split
      next => rfl
      next hn => exact h.metadata key (Ne.symm hn) (Ne.symm hl)
  have hrising {r : Resource} (hr : r.Recordable) :=
    (Json.wellFormed_object_iff.mp hr.wellFormed).1
  rw [stripGcTag_toJson, stripGcTag_toJson, huntagged]
  refine congrArg Json.object (((hrising ha).insert _ _).ext ((hrising hb).insert _ _) fun key => ?_)
  rw [Fields.get?_insert, Fields.get?_insert]
  split
  next => rfl
  next hkey => exact h.others key (Ne.symm hkey)

section Recorded

variable {r : Resource}

/-- Setting the tag changes nothing else. -/
theorem sameUntagged_setEntry (r : Resource) {map : String} (tag : String) (hname : map ≠ "name")
    (hmap : map = "annotations" ∨ map = "labels") :
    SameUntagged r (r.setEntry map AnnotationKey.gcTag tag hname) where
  others key hkey := by
    rw [setEntry, setMeta, fields_withMetadata, Fields.get?_insert, if_neg (Ne.symm hkey)]
  metadata key ha hl := by
    rw [setEntry, get?_metadata_setMeta_of_ne]
    rcases hmap with rfl | rfl <;> assumption
  annotations key hkey := by
    rw [get?_slot_setEntry, if_neg fun h => hkey h.2.symm]
  labels key hkey := by
    rw [get?_slot_setEntry, if_neg fun h => hkey h.2.symm]

/-- Marking an object leaves it the same but for its tag. -/
theorem sameUntagged_marked (r : Resource) (tag : Option String) : SameUntagged r (r.marked tag) := by
  cases tag with
  | none => exact ⟨fun _ _ => rfl, fun _ _ _ => rfl, fun _ _ => rfl, fun _ _ => rfl⟩
  | some tag =>
    exact (sameUntagged_setEntry r tag (by decide) (.inl rfl)).trans
      (sameUntagged_setEntry _ tag (by decide) (.inr rfl))

/-- Taking an annotation away that is not there changes nothing. -/
theorem sameUntagged_removeAnnotation {key : String}
    (h : (r.metadata.slot "annotations").get? key = none) : SameUntagged r (r.removeAnnotation key) where
  others other hother := (get?_removeAnnotation_of_ne key r hother).symm
  metadata other ha _ := (get?_metadata_removeAnnotation_of_ne key r ha).symm
  annotations other _ := by
    rw [ slot_removeAnnotation, Fields.get?_erase]
    split
    next hkey => rw [← hkey, h]
    next => rfl
  labels other _ := by
    rw [Fields.slot_congr (get?_metadata_removeAnnotation_of_ne key r (by decide))]

/-- Marking an object puts in no snapshot. -/
theorem get?_lastApplied_marked (tag : Option String) :
    ((r.marked tag).metadata.slot "annotations").get? AnnotationKey.lastApplied =
      (r.metadata.slot "annotations").get? AnnotationKey.lastApplied := by
  cases tag with
  | none => rfl
  | some tag =>
    rw [marked, setLabel, setAnnotation, get?_slot_setEntry, if_neg (by simp), get?_slot_setEntry,
      if_neg (by decide)]

/-- What is recorded of an object that carries no snapshot is the object, but for the tag. -/
theorem stripGcTag_recorded (h : r.Recordable)
    (hbare : (r.metadata.slot "annotations").get? AnnotationKey.lastApplied = none) (tag : Option String) :
    (Resource.removeAnnotation AnnotationKey.lastApplied (r.marked tag)).toJson.stripGcTag =
      r.toJson.stripGcTag := by
  have hmarked := sameUntagged_marked r tag
  have hremoved := sameUntagged_removeAnnotation ((get?_lastApplied_marked tag).trans hbare)
  exact ((hmarked.trans hremoved).stripGcTag_eq h ((h.marked tag).unannotated _)).symm

end Recorded

end Resource

end Reconcile
