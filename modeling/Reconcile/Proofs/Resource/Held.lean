import Reconcile.Proofs.Command.Target
import Reconcile.Proofs.Cluster.Change
import Reconcile.Proofs.MergePatch.Noop

/-!
# Submitted objects that need no patch

What a server stores for a submitted object holds that object, whether it was created or patched:
what the server puts in are a uid, a resource version and a time of creation, of which a config
states none or its own. The snapshot that is stored with it is of the submitted object, so nothing
falls out of the config, and the next patch is empty.
-/

namespace Reconcile

open Json (nullFree nullFreeFields)
open MergePatch (Holds Within)

namespace Fields

/-- The members that are found under a key have no null among them. -/
theorem nullFreeFields_slot {fields : Fields} (h : nullFreeFields fields = true) (key : String) :
    nullFreeFields (fields.slot key) = true := by
  rw [slot, object?]
  split
  next members hmembers => exact (Json.nullFree_get? h hmembers).2
  next => rfl

end Fields

namespace MergePatch

/-- Only an object holds an object. -/
theorem object_of_holds {config : Fields} {live : Json} (h : Holds (.object config) live) :
    ∃ members, live = .object members := by
  cases live with
  | object members => exact ⟨members, rfl⟩
  | _ => simp [holds_iff_of_not_object, Json.object?, Json.sameValue] at h

/-- Only a text holds it. -/
theorem eq_of_holds_string {s : String} {live : Json} (h : Holds (.string s) live) :
    live = .string s := by
  rw [holds_iff_of_not_object (.inl rfl)] at h
  cases live with
  | string t =>
    have hst : s = t := by simpa [Json.sameValue] using h
    rw [hst]
  | _ => simp [Json.sameValue] at h

end MergePatch

namespace Resource

section NullFree

variable {r : Resource} (h : r.toJson.nullFree = true)

include h

/-- An object stays free of nulls when something free of nulls is set in its metadata. -/
theorem nullFree_setMeta {key : String} {value : Json} (hnull : value ≠ .null)
    (hvalue : value.nullFree = true) (hkey : key ≠ "name") :
    (r.setMeta key value hkey).toJson.nullFree = true :=
  Json.nullFreeFields_insert h "metadata" (by simp)
    (Json.nullFreeFields_insert (Fields.nullFreeFields_slot h "metadata") key hnull hvalue)

/-- So it does when an entry of a map in it is set. -/
theorem nullFree_setEntry {map key value : String} (hmap : map ≠ "name") :
    (r.setEntry map key value hmap).toJson.nullFree = true := by
  have hslot := Fields.nullFreeFields_slot (Fields.nullFreeFields_slot h "metadata") map
  have hentry : nullFree (.object ((r.metadata.slot map).insert key (.string value))) = true :=
    Json.nullFreeFields_insert hslot key (by simp) rfl
  exact nullFree_setMeta h (by simp) hentry hmap

variable [Compression]

/-- An object without null members is submitted without any. -/
theorem nullFree_submitted (target tag : Option String) :
    (r.submitted target tag).toJson.nullFree = true :=
  submitted_keeps (P := fun r => r.toJson.nullFree = true)
    (fun _ _ h => nullFree_setMeta h (by simp) rfl (by decide))
    (fun _ _ _ _ hmap h => nullFree_setEntry h hmap) h

end NullFree

section Holds

variable {object stored : Resource} (hwf : object.toJson.WellFormed)

include hwf

/-- An object holds another when it does outside of metadata and in it. -/
theorem holds_toJson_iff :
    Holds object.toJson stored.toJson ↔
      (∀ key v, key ≠ "metadata" → object.fields.get? key = some v →
        ∃ w, stored.fields.get? key = some w ∧ Holds v w) ∧
      ∀ key v, object.metadata.get? key = some v →
        ∃ w, stored.metadata.get? key = some w ∧ Holds v w := by
  have hrising := (Json.wellFormed_object_iff.mp hwf).1
  have hmeta := (Json.wellFormed_object_iff.mp (wellFormed_metadata hwf)).1
  have hmetadata : Holds (.object object.metadata) (.object stored.metadata) ↔ _ :=
    MergePatch.holds_object_iff hmeta
  rw [toJson, toJson, MergePatch.holds_object_iff hrising, ← hmetadata]
  constructor
  · intro h
    obtain ⟨w, hw, hholds⟩ := h "metadata" _ object.get?_metadata
    rw [stored.get?_metadata, Option.some.injEq] at hw
    exact ⟨fun key v _ hv => h key v hv, hw ▸ hholds⟩
  · rintro ⟨hothers, hholds⟩ key v hv
    by_cases hkey : key = "metadata"
    · subst hkey
      rw [object.get?_metadata, Option.some.injEq] at hv
      exact ⟨_, stored.get?_metadata, hv ▸ hholds⟩
    · exact hothers key v hkey hv

/-- What the server keeps in an object does not count against a config that states none of it. -/
theorem holds_stampedWith (huid : object.metadata.get? "uid" = none)
    (hversion : object.metadata.get? "resourceVersion" = none)
    (h : Holds object.toJson stored.toJson) (uid : String) (version : UInt64) :
    Holds object.toJson (stored.stampedWith uid version).toJson := by
  obtain ⟨hothers, hmetadata⟩ := (holds_toJson_iff hwf).mp h
  refine (holds_toJson_iff hwf).mpr ⟨fun key v hkey hv => ?_, fun key v hv => ?_⟩
  · rw [get?_stampedWith _ _ _ hkey]
    exact hothers key v hkey hv
  · obtain ⟨w, hw, hholds⟩ := hmetadata key v hv
    have huidKey : key ≠ "uid" := by
      rintro rfl
      simp [huid] at hv
    have hversionKey : key ≠ "resourceVersion" := by
      rintro rfl
      simp [hversion] at hv
    exact ⟨w, get?_metadata_stampedWith _ _ _ hw huidKey hversionKey, hholds⟩

/-- An object is not changed by being put where it is. -/
theorem holds_inScope {scope : Option String} (hscope : scope = none ∨ scope = object.scope?) :
    Holds object.toJson (object.inScope scope).toJson := by
  cases hns : scope with
  | none => exact MergePatch.holds_refl hwf
  | some ns =>
    have hown : object.scope? = some ns := (hscope.resolve_left (by simp [hns])).symm.trans hns
    have hmember : object.metadata.get? "namespace" = some (.string ns) := get?_of_metaText? hown
    obtain ⟨hothers, hmetadata⟩ := (holds_toJson_iff hwf).mp (MergePatch.holds_refl hwf)
    refine (holds_toJson_iff hwf).mpr ⟨fun key v hkey hv => ?_, fun key v hv => ?_⟩
    · rw [inScope, setScope, setMeta, fields_withMetadata, Fields.get?_insert, if_neg (Ne.symm hkey)]
      exact hothers key v hkey hv
    · rw [inScope, setScope, metadata_setMeta, Fields.get?_insert]
      split
      next hkey =>
        subst hkey
        rw [hmember, Option.some.injEq] at hv
        subst hv
        exact ⟨_, rfl, MergePatch.holds_refl (.string ns)⟩
      next => exact hmetadata key v hv

/-- What a patch makes of an object holds the config. -/
theorem holds_patched (hfree : object.toJson.nullFree = true) (last : Fields)
    (hstored : stored.toJson.WellFormed) :
    Holds object.toJson (patched hwf last stored).toJson := by
  have hfields : (patched hwf last stored).toJson =
      .object (MergePatch.merged last object.fields stored.fields) :=
    congrArg Json.object (MergePatch.applyFields_fields last hwf hfree hstored)
  rw [hfields]
  exact MergePatch.holds_merged last hwf

/-- A text in a map of metadata is there. -/
theorem entry_of_holds {map key s : String} (h : Holds object.toJson stored.toJson)
    (hs : (object.metadata.slot map).get? key = some (.string s)) :
    ∃ members : Fields, stored.metadata.get? map = some (.object members) ∧
      members.get? key = some (.string s) := by
  cases hslot : object.metadata.object? map with
  | none => simp [Fields.slot, hslot] at hs
  | some inner =>
    rw [Fields.slot, hslot, Option.getD_some] at hs
    have hmember := Fields.get?_of_object? hslot
    obtain ⟨w, hw, hholds⟩ := ((holds_toJson_iff hwf).mp h).2 _ _ hmember
    obtain ⟨members, rfl⟩ := MergePatch.object_of_holds hholds
    have hrising := (Json.wellFormed_object_iff.mp
      ((Json.wellFormed_object_iff.mp (wellFormed_metadata hwf)).2 _ _ hmember)).1
    obtain ⟨u, hu, hsu⟩ := (MergePatch.holds_object_iff hrising).mp hholds key _ hs
    exact ⟨members, hw, MergePatch.eq_of_holds_string hsu ▸ hu⟩

/-- An annotation of the config is there. -/
theorem annotation?_of_holds {key s : String} (h : Holds object.toJson stored.toJson)
    (hs : object.annotation? key = some s) : stored.annotation? key = some s := by
  have hstated : (object.metadata.slot "annotations").get? key = some (.string s) := by
    rw [annotation?, Fields.string?_eq] at hs
    obtain ⟨v, hv, hvs⟩ := Option.bind_eq_some_iff.mp hs
    cases v <;> simp_all [Json.string?]
  obtain ⟨members, hmembers, hentry⟩ := entry_of_holds hwf h hstated
  rw [annotation?, Fields.slot_of_get? hmembers, Fields.string?_eq, hentry]
  rfl

end Holds

section Snapshot

/-- An object that was applied last is within another when its metadata is and all else is the same. -/
theorem within_toJson {last object : Resource}
    (hothers : ∀ key, key ≠ "metadata" → last.fields.get? key = object.fields.get? key)
    (hmetadata : Within (some (.object last.metadata)) (.object object.metadata)) :
    Within (some last.toJson) object.toJson := by
  refine MergePatch.within_object fun key u hu => ?_
  change last.fields.get? key = some u at hu
  by_cases hkey : key = "metadata"
  · subst hkey
    rw [last.get?_metadata, Option.some.injEq] at hu
    exact ⟨_, object.get?_metadata, hu ▸ hmetadata⟩
  · exact ⟨u, hothers key hkey ▸ hu, MergePatch.within_self u⟩

variable (key : String) (r : Resource)

/-- Taking an annotation away changes metadata alone. -/
theorem get?_removeAnnotation_of_ne {other : String} (h : other ≠ "metadata") :
    (r.removeAnnotation key).fields.get? other = r.fields.get? other := by
  unfold removeAnnotation
  split
  · rfl
  · split
    · simp [Fields.get?_insert, Ne.symm h]
    · simp [setMeta, Fields.get?_insert, Ne.symm h]

/-- Taking an annotation away changes the annotations alone. -/
theorem get?_metadata_removeAnnotation_of_ne {other : String} (h : other ≠ "annotations") :
    (r.removeAnnotation key).metadata.get? other = r.metadata.get? other := by
  unfold removeAnnotation
  split
  · rfl
  · split
    · simp [Fields.get?_erase, Ne.symm h]
    · simp [Fields.get?_insert, Ne.symm h]

/-- The annotations that are left are the others. -/
theorem slot_removeAnnotation :
    (r.removeAnnotation key).metadata.slot "annotations" = (r.metadata.slot "annotations").erase key := by
  unfold removeAnnotation
  cases hannotations : r.metadata.object? "annotations" with
  | none => simp only [Fields.slot, hannotations, Option.getD_none, Fields.erase]
  | some annotations =>
    have hslot : r.metadata.slot "annotations" = annotations := by
      rw [Fields.slot, hannotations, Option.getD_some]
    rw [hslot]
    dsimp only
    split
    next hempty =>
      rw [metadata_withMetadata, hempty, Fields.slot, Fields.object?_eq, Fields.get?_erase, if_pos rfl]
      rfl
    next => rw [metadata_setMeta, Fields.slot_insert_self]

/-- Whatever annotation is put in, what was there before without it is still part of the object. -/
theorem within_setAnnotation (value : String) :
    Within (some (r.removeAnnotation key).toJson) (r.setAnnotation key value).toJson := by
  refine within_toJson (fun other h => ?_) (MergePatch.within_object fun other u hu => ?_)
  · rw [get?_removeAnnotation_of_ne key r h, setAnnotation, setEntry, setMeta, fields_withMetadata,
      Fields.get?_insert, if_neg (Ne.symm h)]
  change (r.removeAnnotation key).metadata.get? other = some u at hu
  have hset := metadata_setAnnotation r key value
  rw [hset, Fields.get?_insert]
  by_cases hother : "annotations" = other
  · subst hother
    refine ⟨_, if_pos rfl, MergePatch.within_object fun name w hw => ?_⟩
    have hlast : MergePatch.lastFields (some u) =
        (r.removeAnnotation key).metadata.slot "annotations" := by
      rw [Fields.slot, Fields.object?_eq, hu]
      rfl
    rw [hlast, slot_removeAnnotation, Fields.get?_erase] at hw
    split at hw
    next => simp at hw
    next hname => exact ⟨w, by rw [Fields.get?_insert, if_neg hname, hw], MergePatch.within_self w⟩
  · rw [get?_metadata_removeAnnotation_of_ne key r (Ne.symm hother)] at hu
    exact ⟨u, by rw [if_neg hother, hu], MergePatch.within_self u⟩

end Snapshot

end Resource

variable [Compression]

/-- Whoever can read the snapshot of an object reads what was put into it. -/
def Snapshot.Faithful (r : Resource) : Prop :=
  ∀ v, decode (ofResource r) = .ok v → v = (r.removeAnnotation AnnotationKey.lastApplied).toJson

namespace Resource

/-- What is read off an object that carries the snapshot of another is part of that one. -/
theorem within_lastAppliedOf {r live : Resource} (hfaithful : Snapshot.Faithful r)
    (h : live.annotation? AnnotationKey.lastApplied = some (Snapshot.ofResource r)) :
    Within (some (lastAppliedOf live).1) (Snapshot.stamp r).toJson := by
  have htext : Snapshot.text? live = some (Snapshot.ofResource r) := by
    rw [Snapshot.text?, h, Option.some_or]
  rw [lastAppliedOf, Snapshot.lastApplied, htext]
  dsimp only
  cases hdecode : Snapshot.decode (Snapshot.ofResource r) with
  | error f => exact MergePatch.within_of_empty rfl _
  | ok v =>
    obtain rfl := hfaithful v hdecode
    exact within_setAnnotation _ r _

/-- Where a live object holds the config, and the config lacks nothing that was applied last, there
is nothing to patch. -/
theorem isNoop_patchTo {object live : Resource} (hwf : object.toJson.WellFormed)
    (hwithin : Within (some (lastAppliedOf live).1) object.toJson)
    (hholds : Holds object.toJson live.toJson) : MergePatch.isNoop (object.patchTo live) = true := by
  have hnone : MergePatch.member? (some (lastAppliedOf live).1) object.toJson live.toJson = none :=
    MergePatch.member?_eq_none hwf hwithin hholds
  have hempty : MergePatch.fields (MergePatch.lastFields (some (lastAppliedOf live).1)) object.fields
      live.fields = [] := by
    rw [toJson, toJson, MergePatch.member?_object] at hnone
    simpa using hnone
  exact congrArg (fun patch => MergePatch.isNoop (.object patch)) hempty

/-- An object that holds what was submitted, snapshot included, needs no patch. -/
theorem isNoop_patchTo_submitted {r stored : Resource} {target tag : Option String}
    (hwf : r.toJson.WellFormed) (hfaithful : Snapshot.Faithful ((r.placedIn target).marked tag))
    (hholds : Holds (r.submitted target tag).toJson stored.toJson) :
    MergePatch.isNoop ((r.submitted target tag).patchTo stored) = true := by
  have hsubmitted := wellFormed_submitted target tag hwf
  have hsnapshot : stored.annotation? AnnotationKey.lastApplied =
      some (Snapshot.ofResource ((r.placedIn target).marked tag)) := by
    refine annotation?_of_holds hsubmitted hholds ?_
    rw [submitted_eq, Snapshot.stamp, annotation?_setAnnotation, if_pos rfl]
  exact isNoop_patchTo hsubmitted (within_lastAppliedOf hfaithful hsnapshot) hholds

end Resource

end Reconcile
