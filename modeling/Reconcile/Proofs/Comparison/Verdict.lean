import Reconcile.Comparison.Basic
import Reconcile.Gzip.Member
import Reconcile.Proofs.Comparison.Covers

/-!
# Verdicts of the two views of a live object

With what the config mentions of a live object the config agrees exactly when the object covers it, which
`Comparison.subset_agrees_iff_covers` says without trimming anything. The object without what the server
keeps in it is a part of the object, so a config that agrees with it agrees in what it mentions as well:
`Comparison.subset_agrees_of_all_agrees`.
-/

namespace Reconcile

namespace Json

/-- What is left of a value: whatever is the same as the part is covered by the whole. -/
def PartOf (part whole : Json) : Prop :=
  ∀ config : Json, config.sameValue part = true → config.covers whole = true

/-- A value is part of itself. -/
theorem PartOf.refl (v : Json) : PartOf v v := fun _ => covers_of_sameValue

/-- Some members of an object are a part of it, be they whole or parts themselves. No member at all is not:
an empty object mentions everything. -/
theorem partOf_object {part whole : Fields} (hne : part ≠ [])
    (h : ∀ key w, part.get? key = some w → ∃ u, whole.get? key = some u ∧ PartOf w u) :
    PartOf (.object part) (.object whole) := by
  intro config hsame
  cases config with
  | object config =>
    rw [sameValue, Bool.and_eq_true, beq_iff_eq, sameFields_iff] at hsame
    obtain ⟨hlength, heach⟩ := hsame
    refine covers_object_iff.mpr ⟨fun hnil => ?_, coversFields_iff.mpr fun m hm => ?_⟩
    · rw [hnil] at hlength
      exact absurd (List.eq_nil_of_length_eq_zero hlength.symm) hne
    · obtain ⟨w, hw, hmw⟩ := heach m hm
      obtain ⟨u, hu, hpart⟩ := h m.1 w hw
      rw [hu]
      refine ⟨fun u' hu' => ?_, fun hnone => by contradiction⟩
      exact Option.some.inj hu' ▸ hpart m.2 hmw
  | _ => simp [sameValue] at hsame

end Json

open Json (PartOf)

namespace Fields

/-- Where something is found there are members. -/
theorem ne_nil_of_get? {fields : Fields} {key : String} {v : Json} (h : fields.get? key = some v) :
    fields ≠ [] := by
  rintro rfl
  simp at h

/-- What is left after erasing is found as before. -/
theorem get?_eraseAll (key : String) (keys : List String) (fields : Fields) :
    (fields.eraseAll keys).get? key = if key ∈ keys then none else fields.get? key := by
  induction keys generalizing fields with
  | nil => simp [eraseAll]
  | cons k rest ih =>
    rw [eraseAll, List.foldl_cons, ← eraseAll, ih, get?_erase]
    by_cases hk : k = key
    · simp [hk]
    · simp [hk, Ne.symm hk]

/-- What is left under a key was there before. -/
theorem get?_of_eraseAll {fields : Fields} {keys : List String} {key : String} {v : Json}
    (h : (fields.eraseAll keys).get? key = some v) : fields.get? key = some v := by
  rw [get?_eraseAll] at h
  split at h
  next => simp at h
  next => exact h

section EraseWithin

variable {map : String} {keys : List String} (fields : Fields)

/-- Taking keys out of a map touches nothing else. -/
theorem get?_eraseWithin_of_ne {key : String} (h : map ≠ key) :
    (fields.eraseWithin map keys).get? key = fields.get? key := by
  rw [eraseWithin]
  split
  next => rfl
  next =>
    split
    next => rw [get?_erase, if_neg h]
    next => rw [get?_insert, if_neg h]

/-- What is left of a map without some keys is part of it, since the map goes with its last member. -/
theorem partOf_eraseWithin {w : Json} (h : (fields.eraseWithin map keys).get? map = some w) :
    ∃ u, fields.get? map = some u ∧ PartOf w u := by
  rw [eraseWithin] at h
  split at h
  next => exact ⟨w, h, .refl w⟩
  next inner hinner =>
    split at h
    next => simp [get?_erase] at h
    next hrest =>
      rw [get?_insert, if_pos rfl, Option.some.injEq] at h
      refine ⟨.object inner, get?_of_object? hinner, h ▸ Json.partOf_object hrest fun key v hv => ?_⟩
      exact ⟨v, get?_of_eraseAll hv, .refl v⟩

end EraseWithin

end Fields

namespace Resource

variable (r : Resource)

/-- The metadata without what the server keeps in it. -/
def ownMetadata : Fields :=
  (r.metadata.eraseAll serverMetadata).eraseWithin "annotations"
    [AnnotationKey.lastApplied, AnnotationKey.plainLastApplied]

/-- Without what the server keeps an object has its own metadata and no status. -/
theorem stripServerFields_toJson : r.toJson.stripServerFields =
    .object ((r.fields.insert "metadata" (.object r.ownMetadata)).erase "status") := by
  simp only [Json.stripServerFields, toJson, Json.mapFields, Fields.modifyObject,
    Fields.object?_of_get? r.get?_metadata]
  rfl

/-- The name stays, so the metadata that is left is never empty. -/
theorem ownMetadata_ne_nil : r.ownMetadata ≠ [] := by
  obtain ⟨name, hname, -⟩ := Fields.hasText_iff.mp r.complete.name
  have hleft : r.ownMetadata.get? "name" = r.metadata.get? "name" := by
    rw [ownMetadata, Fields.get?_eraseWithin_of_ne _ (by decide), Fields.get?_eraseAll, if_neg (by decide)]
  exact Fields.ne_nil_of_get? (hleft.trans hname)

/-- The metadata without what the server keeps is part of the metadata. -/
theorem partOf_ownMetadata : PartOf (.object r.ownMetadata) (.object r.metadata) := by
  refine Json.partOf_object r.ownMetadata_ne_nil fun key w hw => ?_
  by_cases hkey : "annotations" = key
  · subst hkey
    obtain ⟨u, hu, hpart⟩ := Fields.partOf_eraseWithin _ hw
    exact ⟨u, Fields.get?_of_eraseAll hu, hpart⟩
  · rw [ownMetadata, Fields.get?_eraseWithin_of_ne _ hkey] at hw
    exact ⟨w, Fields.get?_of_eraseAll hw, .refl w⟩

/-- The object without what the server keeps in it is a part of it. -/
theorem partOf_stripServerFields : PartOf r.toJson.stripServerFields r.toJson := by
  have hleft (key : String) :
      Fields.get? key ((r.fields.insert "metadata" (.object r.ownMetadata)).erase "status") =
        if "status" = key then none
        else if "metadata" = key then some (.object r.ownMetadata) else r.fields.get? key := by
    rw [Fields.get?_erase, Fields.get?_insert]
  rw [stripServerFields_toJson]
  refine Json.partOf_object (Fields.ne_nil_of_get? (hleft "metadata")) fun key w hw => ?_
  rw [hleft] at hw
  split at hw
  next => simp at hw
  next =>
    split at hw
    next hkey =>
      obtain rfl := Option.some.inj hw
      exact ⟨_, hkey ▸ r.get?_metadata, r.partOf_ownMetadata⟩
    next => exact ⟨w, hw, .refl w⟩

end Resource

namespace Comparison

/-- A comparison has no differences exactly when its sides are the same. -/
theorem hasDifferences_eq_false_iff {c : Comparison} :
    c.hasDifferences = false ↔ c.config.sameValue c.live = true := by
  rw [hasDifferences, Bool.not_eq_false']

/-- A config agrees in what it mentions exactly when the live object covers it. -/
theorem subset_agrees_iff_covers [Compression] (config live : Resource) (hwf : config.toJson.WellFormed) :
    (between config live .subset).1.hasDifferences = false ↔ config.toJson.covers live.toJson = true := by
  rw [hasDifferences_eq_false_iff, ← Json.sameValue_trim hwf]
  rfl

/-- A config with an empty list of arguments, which the server leaves out, and one with an empty selector,
which the server has filled. -/
theorem subset_agrees_iff_covers_of_service :
    let service (metadata spec : Fields) : Fields :=
      [("apiVersion", .string "v1"), ("kind", .string "Service"),
        ("metadata", .object (metadata ++ [("name", .string "web")])), ("spec", .object spec)]
    let ports (more : Fields) (port : Number) : Json := .array [.object (more ++ [("port", .number port)])]
    let port : Number := .integer ⟨8080, by decide⟩
    let portFloat : Number := .float ⟨false, 0x1f900000000000, -40, by decide⟩
    let selector : Fields := [("app", .string "web")]
    let live : Resource :=
      ⟨service [("labels", .object selector)] [("ports", ports [("name", .string "http")] portFloat),
        ("selector", .object selector)], by decide, by decide, by decide⟩
    let covered : Resource :=
      ⟨service [] [("args", .array []), ("ports", ports [] port)], by decide, by decide, by decide⟩
    let uncovered : Resource :=
      ⟨service [] [("ports", ports [] port), ("selector", .object [])], by decide, by decide, by decide⟩
    covered.toJson.WellFormed ∧ (between covered live .subset).1.hasDifferences = false ∧
      uncovered.toJson.WellFormed ∧ (between uncovered live .subset).1.hasDifferences = true := by
  intro service ports port portFloat selector live covered uncovered
  have hcovered : covered.toJson.WellFormed := by decide
  have huncovered : uncovered.toJson.WellFormed := by decide
  refine ⟨hcovered, (subset_agrees_iff_covers covered live hcovered).mpr (by decide), huncovered, ?_⟩
  rw [← Bool.not_eq_false, subset_agrees_iff_covers uncovered live huncovered]
  decide

/-- A config that agrees with the whole object agrees with it in what it mentions. -/
theorem subset_agrees_of_all_agrees [Compression] {config live : Resource} (hwf : config.toJson.WellFormed)
    (h : (between config live .all).1.hasDifferences = false) :
    (between config live .subset).1.hasDifferences = false := by
  have hall : config.toJson.sameValue live.toJson.stripServerFields = true :=
    hasDifferences_eq_false_iff.mp h
  have hcovers : config.toJson.covers live.toJson = true := live.partOf_stripServerFields _ hall
  rw [hasDifferences_eq_false_iff]
  exact (Json.sameValue_trim hwf).trans hcovers

/-- A live object that is the config but for a number written otherwise and what the server keeps: the uid,
the version, the status and a snapshot, which was the only annotation. -/
theorem subset_agrees_of_all_agrees_of_stamped :
    let configMap (one : Number) (metadata more : Fields) : Fields :=
      [("apiVersion", .string "v1"), ("binaryData", .object []), ("data", .object [("n", .number one)]),
        ("kind", .string "ConfigMap"), ("metadata", .object metadata)] ++ more
    let config : Resource :=
      ⟨configMap (.integer ⟨1, by decide⟩) [("name", .string "a")] [], by decide, by decide, by decide⟩
    let live : Resource :=
      ⟨configMap (.float ⟨false, 0x10000000000000, -52, by decide⟩)
        [("annotations", .object [(AnnotationKey.lastApplied, .string "\x7b\x7d")]),
          ("name", .string "a"), ("resourceVersion", .string "7"), ("uid", .string "u")]
        [("status", .object [("ready", .bool true)])], by decide, by decide, by decide⟩
    config.toJson.WellFormed ∧ (between config live .all).1.hasDifferences = false ∧
      (between config live .subset).1.hasDifferences = false := by
  intro configMap config live
  have hwf : config.toJson.WellFormed := by decide
  have hall : (between config live .all).1.hasDifferences = false := by decide
  exact ⟨hwf, hall, subset_agrees_of_all_agrees hwf hall⟩

end Comparison

end Reconcile
