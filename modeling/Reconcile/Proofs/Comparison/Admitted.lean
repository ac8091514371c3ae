import Reconcile.Proofs.Comparison.Covers
import Reconcile.Proofs.Comparison.Stripped

/-!
# Marks beside configs

An update puts annotations and labels of its own into what it submits. A config that leaves room for
them is as good as held by whatever holds what was submitted, and a config that does not is not covered:
it has no map where one is needed, or it states another tag.
-/

namespace Reconcile

open MergePatch (Holds)

namespace MergePatch

/-- What holds an object with one member more holds the object. -/
theorem holds_of_insert {config : Fields} {key : String} {v live : Json} (rising : config.Rising)
    (hsame : ∀ u, config.get? key = some u → u = v) (h : Holds (.object (config.insert key v)) live) :
    Holds (.object config) live := by
  obtain ⟨members, rfl⟩ := object_of_holds h
  refine (holds_object_iff rising).mpr fun k u hu => (holds_object_iff (rising.insert key v)).mp h k u ?_
  rw [Fields.get?_insert]
  split
  next hk => rw [hsame u (hk ▸ hu)]
  next => exact hu

end MergePatch

namespace Resource

/-- An entry can be put into a map of metadata without a change to what the object states. -/
structure Admits (r : Resource) (map key value : String) : Prop where
  isMap : r.metadata.MapAt map
  same : ∀ v, (r.metadata.slot map).get? key = some v → v = .string value

/-- What an update puts into annotations and labels changes nothing that the object states: a run leaves its
snapshot among the annotations, and a run with a tag marks annotations and labels with it. -/
structure Undisturbed (tag : Option String) (r : Resource) : Prop where
  annotations : r.metadata.MapAt "annotations"
  tag : ∀ t, tag = some t → r.Admits "annotations" AnnotationKey.gcTag t ∧ r.Admits "labels" Label.gcTag t

variable {r object live : Resource} {map key value : String} {tag : Option String}

/-- An entry that is not stated is admitted. -/
theorem Admits.of_missing (hmap : r.metadata.MapAt map) (h : (r.metadata.slot map).get? key = none) :
    r.Admits map key value := ⟨hmap, fun v hv => by simp [h] at hv⟩

/-- Which entries are admitted depends on the map alone. -/
theorem Admits.congr {other : Resource} (h : r.Admits map key value)
    (hsame : other.metadata.get? map = r.metadata.get? map) : other.Admits map key value :=
  ⟨h.isMap.congr hsame, Fields.slot_congr hsame ▸ h.same⟩

/-- Where an input is placed does not matter for whether it is undisturbed. -/
theorem Undisturbed.placedIn_iff (target : Option String) :
    (r.placedIn target).Undisturbed tag ↔ r.Undisturbed tag := by
  have hannotations : (r.placedIn target).metadata.get? "annotations" = r.metadata.get? "annotations" :=
    get?_metadata_placedIn r target (by decide)
  have hlabels : (r.placedIn target).metadata.get? "labels" = r.metadata.get? "labels" :=
    get?_metadata_placedIn r target (by decide)
  constructor
  · intro h
    exact ⟨h.annotations.congr hannotations.symm, fun t ht =>
      ⟨(h.tag t ht).1.congr hannotations.symm, (h.tag t ht).2.congr hlabels.symm⟩⟩
  · intro h
    exact ⟨h.annotations.congr hannotations, fun t ht =>
      ⟨(h.tag t ht).1.congr hannotations, (h.tag t ht).2.congr hlabels⟩⟩

/-- What holds an object with an entry that the object admits holds the object. -/
theorem holds_of_setEntry (hwf : r.toJson.WellFormed) (hname : map ≠ "name") (hadmits : r.Admits map key value)
    (h : Holds (r.setEntry map key value hname).toJson live.toJson) : Holds r.toJson live.toJson := by
  obtain ⟨hothers, hmetadata⟩ := (holds_toJson_iff (wellFormed_setEntry hwf hname)).mp h
  refine (holds_toJson_iff hwf).mpr ⟨fun k v hk hv => hothers k v hk ?_, fun k v hv => ?_⟩
  · rw [setEntry, setMeta, fields_withMetadata, Fields.get?_insert, if_neg (Ne.symm hk), hv]
  by_cases hk : k = map
  · subst hk
    obtain hnone | ⟨members, hmembers⟩ := hadmits.isMap.get?_eq
    · simp [hnone] at hv
    obtain rfl := Option.some.inj (hmembers.symm.trans hv)
    have hslot := Fields.slot_of_get? hmembers
    have hinner := (Json.wellFormed_object_iff.mp (wellFormed_metadata hwf)).2 _ _ hmembers
    obtain ⟨w, hw, hholds⟩ := hmetadata k (.object (Fields.insert key (.string value) members))
      (by rw [setEntry, metadata_setMeta, Fields.get?_insert, if_pos rfl, hslot])
    exact ⟨w, hw, MergePatch.holds_of_insert (Json.wellFormed_object_iff.mp hinner).1
      (hslot ▸ hadmits.same) hholds⟩
  · exact hmetadata k v (by rw [setEntry, get?_metadata_setMeta_of_ne _ _ _ _ hk, hv])

/-- By what has an entry a config is covered only if it admits that entry. -/
theorem admits_of_covers (hwf : object.toJson.WellFormed) (hholds : Holds object.toJson live.toJson)
    (hentry : (object.metadata.slot map).get? key = some (.string value))
    (h : r.toJson.covers live.toJson = true) : r.Admits map key value := by
  obtain ⟨members, hmembers, hvalue⟩ := entry_of_holds hwf hholds hentry
  have hmetadata : Json.covers (.object r.metadata) (.object live.metadata) = true :=
    Json.covers_get? h r.get?_metadata live.get?_metadata
  have hmap (v : Json) (hv : r.metadata.get? map = some v) :
      ∃ inner, v = .object inner ∧ Json.covers (.object inner) (.object members) = true := by
    have hcovers := Json.covers_get? hmetadata hv hmembers
    obtain ⟨inner, rfl⟩ := Json.object_of_covers hcovers
    exact ⟨inner, rfl, hcovers⟩
  refine ⟨?_, fun v hv => ?_⟩
  · rw [Fields.MapAt]
    cases hown : r.metadata.get? map with
    | none => rfl
    | some v =>
      obtain ⟨inner, rfl, -⟩ := hmap v hown
      rfl
  · cases hown : r.metadata.get? map with
    | none => simp [Fields.slot, Fields.object?_eq, hown] at hv
    | some u =>
      obtain ⟨inner, rfl, hcovers⟩ := hmap u hown
      rw [Fields.slot_of_get? hown] at hv
      exact Json.eq_of_covers_string (Json.covers_get? hcovers hv hvalue)

section Stamp

variable [Compression] (hwf : r.toJson.WellFormed)
  (hholds : Holds (Snapshot.stamp (r.marked tag)).toJson live.toJson)

include hwf hholds

/-- What holds a config with its marks and its snapshot holds the config, if that is undisturbed. -/
theorem Undisturbed.holds (h : r.Undisturbed tag)
    (hbare : (r.metadata.slot "annotations").get? AnnotationKey.lastApplied = none) :
    Holds r.toJson live.toJson := by
  have hmap : (r.marked tag).metadata.MapAt "annotations" := by
    cases tag with
    | none => exact h.annotations
    | some t =>
      rw [marked, setLabel, setEntry, metadata_setMeta, metadata_setAnnotation]
      exact (h.annotations.insert _ _).insert _ _
  -- what was put in last is taken off first: the snapshot, the label, the annotation
  have hmarked := holds_of_setEntry (wellFormed_marked tag hwf) (by decide)
    (.of_missing hmap ((get?_lastApplied_marked tag).trans hbare)) hholds
  cases tag with
  | none => exact hmarked
  | some t =>
    obtain ⟨hmark, hlabel⟩ := h.tag t rfl
    have hone := holds_of_setEntry (wellFormed_setEntry hwf (by decide)) (by decide)
      (hlabel.congr (get?_metadata_setMeta_of_ne _ _ _ _ (by decide))) hmarked
    exact holds_of_setEntry hwf (by decide) hmark hone

/-- A config that is covered by what holds it with its marks and its snapshot is undisturbed. -/
theorem undisturbed_of_covers (h : r.toJson.covers live.toJson = true) : r.Undisturbed tag := by
  have hadmits (map key value : String)
      (hentry : ((Snapshot.stamp (r.marked tag)).metadata.slot map).get? key = some (.string value)) :
      r.Admits map key value :=
    admits_of_covers (wellFormed_setEntry (wellFormed_marked tag hwf) (by decide)) hholds hentry h
  have hsnapshot := hadmits "annotations" AnnotationKey.lastApplied (Snapshot.ofResource (r.marked tag))
    (by rw [Snapshot.stamp, setAnnotation, get?_slot_setEntry, if_pos ⟨rfl, rfl⟩])
  refine ⟨hsnapshot.isMap, ?_⟩
  rintro t rfl
  refine ⟨hadmits "annotations" AnnotationKey.gcTag t ?_, hadmits "labels" Label.gcTag t ?_⟩
  · rw [Snapshot.stamp, setAnnotation, get?_slot_setEntry, if_neg (by decide), marked, setLabel,
      get?_slot_setEntry, if_neg (by decide), setAnnotation, get?_slot_setEntry, if_pos ⟨rfl, rfl⟩]
  · rw [Snapshot.stamp, setAnnotation, get?_slot_setEntry, if_neg (by decide), marked, setLabel,
      get?_slot_setEntry, if_pos ⟨rfl, rfl⟩]

/-- A config is covered by what holds it with its marks and its snapshot exactly when it is undisturbed and
the live object is empty wherever the config is. -/
theorem covers_iff_of_stamped
    (hbare : (r.metadata.slot "annotations").get? AnnotationKey.lastApplied = none) :
    r.toJson.covers live.toJson = true ↔ r.Undisturbed tag ∧ r.toJson.KeepsEmpty live.toJson := by
  constructor
  · intro h
    have hundisturbed := undisturbed_of_covers hwf hholds h
    exact ⟨hundisturbed, (Json.covers_iff_of_holds hwf (hundisturbed.holds hwf hholds hbare)).mp h⟩
  · rintro ⟨hundisturbed, hkeeps⟩
    exact (Json.covers_iff_of_holds hwf (hundisturbed.holds hwf hholds hbare)).mpr hkeeps

end Stamp

end Resource

end Reconcile
