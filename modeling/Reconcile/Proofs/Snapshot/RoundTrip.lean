import Mathlib.Logic.Function.Iterate
import Reconcile.Proofs.Json.Printed
import Reconcile.Proofs.Resource.Unannotated
import Reconcile.Proofs.Snapshot.Base64
import Reconcile.Proofs.Snapshot.Gzip
import Reconcile.Proofs.Text.Basic

/-!
# Snapshots round trip and never nest

The snapshot that an object is stamped with is read back as the object without its annotation, through
the three layers that it is written in. What an earlier snapshot was does not count, so an object that is
stamped again stays as it is.
-/

namespace Reconcile.Snapshot

section Compressed

variable [Compression]

/-- A value that is read back from its text is read back from its snapshot. -/
theorem decode_encode (lossless : Compression.Lossless) {v : Json} (h : Json.parse? v.compact = some v) :
    decode (encode v) = .ok v := by
  let bytes := (Compression.pack v.compact.toUTF8).data.toList
  have hbytes : (⟨bytes.toArray⟩ : ByteArray) = Compression.pack v.compact.toUTF8 := rfl
  have htrim : Text.trim (Base64.encode bytes) = Base64.encode bytes :=
    Text.trim_of_tight (Text.tight_of_forall fun c hc =>
      Base64.isBlank_of_mem_characters c (Base64.mem_characters c hc))
  have hbrace : (Base64.encode bytes).head? ≠ some '{' := fun hhead =>
    Base64.not_brace_of_mem_characters '{' (Base64.mem_characters '{' (List.mem_of_mem_head? hhead)) rfl
  rw [decode, encode, String.toList_ofList, htrim]
  dsimp only
  rw [if_neg hbrace, Base64.decode?_encode]
  dsimp only
  rw [hbytes, lossless]
  dsimp only
  rw [Text.fromUTF8?_toUTF8, Option.bind_some, h]

/-- The snapshot of an object is read back as the object without that annotation. -/
theorem decode_ofResource (lossless : Compression.Lossless) {r : Resource} (hwf : r.toJson.WellFormed)
    (hdepth : (r.removeAnnotation AnnotationKey.lastApplied).toJson.depth ≤ 127)
    (hfloats : ∀ x ∈ (r.removeAnnotation AnnotationKey.lastApplied).toJson.floats, x.ReadsBack) :
    decode (ofResource r) = .ok (r.removeAnnotation AnnotationKey.lastApplied).toJson :=
  decode_encode lossless (Json.parse?_compact (Resource.wellFormed_removeAnnotation hwf _) hdepth hfloats)

/-- Where compressing loses nothing, whoever can read the snapshot of an object reads the object. -/
theorem faithful_of_lossless (lossless : Compression.Lossless) {r : Resource} (hwf : r.toJson.WellFormed)
    (hdepth : (r.removeAnnotation AnnotationKey.lastApplied).toJson.depth ≤ 127)
    (hfloats : ∀ x ∈ (r.removeAnnotation AnnotationKey.lastApplied).toJson.floats, x.ReadsBack) :
    Faithful r := by
  intro v hv
  rw [decode_ofResource lossless hwf hdepth hfloats] at hv
  exact (Except.ok.inj hv).symm

section Stamp

variable {r : Resource} (hwf : r.toJson.WellFormed) (hannotations : r.metadata.MapAt "annotations")

include hwf hannotations

/-- The snapshot of a stamped object is that of the object. -/
theorem ofResource_stamp : ofResource (stamp r) = ofResource r := by
  rw [ofResource, ofResource, stamp, Resource.removeAnnotation_setAnnotation hwf hannotations]

/-- Stamping an object again leaves it as it is. -/
theorem stamp_stamp : stamp (stamp r) = stamp r := by
  rw [stamp, ofResource_stamp hwf hannotations, stamp, Resource.setAnnotation_setAnnotation]

end Stamp

/-- The snapshot on a stamped object is read back as the object without that annotation, and without the
map of annotations when it has no other. Nothing but that annotation is changed by stamping, and an object
that is stamped any number of times more is the same. All this holds of every object of at most 120 levels
whose annotations are a map where they are at all, whatever snapshot it carried before, as long as nothing
is lost when bytes are compressed. -/
theorem lastApplied_stamp (lossless : Compression.Lossless) {r : Resource} (hwf : r.toJson.WellFormed)
    (hdepth : r.toJson.depth ≤ 120) (hannotations : r.metadata.MapAt "annotations")
    (hfloats : ∀ x ∈ (r.removeAnnotation AnnotationKey.lastApplied).toJson.floats, x.ReadsBack) :
    let bare := r.removeAnnotation AnnotationKey.lastApplied
    let others := (r.metadata.slot "annotations").erase AnnotationKey.lastApplied
    lastApplied (stamp r) = .ok (some bare.toJson) ∧
      (r.SameBut AnnotationKey.lastApplied bare ∧
        bare.metadata.get? "annotations" = if others = [] then none else some (.object others)) ∧
      r.SameBut AnnotationKey.lastApplied (stamp r) ∧
      ∀ n : Nat, stamp^[n] (stamp r) = stamp r := by
  intro bare others
  refine ⟨?_,
    ⟨Resource.sameBut_removeAnnotation _ r, Resource.get?_annotations_removeAnnotation hannotations⟩,
    Resource.sameBut_setAnnotation _ r _, fun n => Function.iterate_fixed (stamp_stamp hwf hannotations) n⟩
  have htext : text? (stamp r) = some (ofResource r) := by
    rw [text?, stamp, Resource.annotation?_setAnnotation, if_pos rfl, Option.some_or]
  have hbare : bare.toJson.depth ≤ 127 :=
    Nat.le_trans (Resource.depth_removeAnnotation_le _ r) (Nat.le_trans hdepth (by decide))
  rw [lastApplied, htext]
  dsimp only
  rw [decode_ofResource lossless hwf hbare hfloats]
  rfl

end Compressed

/-- An object whose one annotation is a snapshot that cannot even be read, and whose share is one and a
half, is read back without the map of annotations. -/
theorem lastApplied_stamp_of_broken :
    let share : Json := .number (.float ⟨false, 0x18000000000000, -52, by decide⟩)
    let r : Resource :=
      ⟨[("apiVersion", .string "v1"), ("kind", .string "Quota"),
        ("metadata", .object [("annotations", .object [(AnnotationKey.lastApplied, .string "broken")]),
          ("name", .string "a")]), ("share", share)], by decide, by decide, by decide⟩
    lastApplied (stamp r) =
        .ok (some (.object [("apiVersion", .string "v1"), ("kind", .string "Quota"),
          ("metadata", .object [("name", .string "a")]), ("share", share)])) ∧
      stamp^[2] (stamp r) = stamp r := by
  intro share r
  have hstamp := @lastApplied_stamp _ Gzip.lossless r ((Json.isWellFormed_iff _).mp (by decide))
    (by decide) (by decide) (by decide +kernel)
  exact ⟨hstamp.1, hstamp.2.2.2 2⟩

end Reconcile.Snapshot
