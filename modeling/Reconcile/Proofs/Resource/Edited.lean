import Reconcile.Proofs.Resource.InPlace

/-!
# Objects after any edits

An edit touches one entry in a map of metadata, or the namespace, and nothing else. So after any number of edits
an entry is what the last one that touches it makes of it, and as it was where none does:
`Resource.get?_slot_edited`. Kind, name and all else stay, and the object is a resource as before.
-/

namespace Reconcile

namespace Resource

/-- The object after edits, one after the other. -/
def edited (edits : List Edit) (r : Resource) : Resource := edits.foldl (fun r e => e.apply r) r

/-- What an edit makes of an entry in a map of metadata that it touches: a text, or none where it takes the entry
away. -/
def Edit.makes (map key : String) : Edit → Option (Option String)
  | .scope _ => none
  | .annotate k value => if map = "annotations" ∧ k = key then some (some value) else none
  | .label k value => if map = "labels" ∧ k = key then some (some value) else none
  | .unannotate k => if map = "annotations" ∧ k = key then some none else none

/-- What the last edit that touches an entry makes of it. -/
def lastMade (map key : String) (edits : List Edit) : Option (Option String) :=
  edits.reverse.findSome? (Edit.makes map key)

/-- What is made last is made by a later edit, or else by the first one. -/
theorem lastMade_cons (map key : String) (e : Edit) (rest : List Edit) :
    lastMade map key (e :: rest) = (lastMade map key rest).or (e.makes map key) := by
  rw [lastMade, List.reverse_cons, List.findSome?_append, List.findSome?_singleton]
  rfl

/-- Objects that differ in namespace, annotations and labels at most. -/
structure SameOutside (r s : Resource) : Prop where
  fields : ∀ key, key ≠ "metadata" → s.fields.get? key = r.fields.get? key
  metadata : ∀ key, key ∉ ["namespace", "annotations", "labels"] → s.metadata.get? key = r.metadata.get? key

namespace SameOutside

variable {r s t : Resource}

/-- An object is the same as itself outside what can be edited. -/
theorem refl (r : Resource) : SameOutside r r := ⟨fun _ _ => rfl, fun _ _ => rfl⟩

/-- Being the same there carries over. -/
theorem trans (h : SameOutside r s) (h' : SameOutside s t) : SameOutside r t where
  fields key hkey := (h'.fields key hkey).trans (h.fields key hkey)
  metadata key hkey := (h'.metadata key hkey).trans (h.metadata key hkey)

/-- Objects that are the same there are of one version. -/
theorem apiVersion_eq (h : SameOutside r s) : s.apiVersion = r.apiVersion := by
  rw [apiVersion, apiVersion, Fields.string?_eq, Fields.string?_eq, h.fields _ (by decide)]

/-- They are of one kind. -/
theorem kind_eq (h : SameOutside r s) : s.kind = r.kind := by
  rw [kind, kind, Fields.string?_eq, Fields.string?_eq, h.fields _ (by decide)]

/-- They have one name. -/
theorem name_eq (h : SameOutside r s) : s.name = r.name := by
  rw [name, name, metaText?, metaText?, Fields.string?_eq, Fields.string?_eq, h.metadata _ (by decide)]

/-- Setting an entry of the metadata that can be edited changes nothing else. -/
theorem setMeta (r : Resource) {key : String} (value : Json) (hname : key ≠ "name")
    (hkey : key ∈ ["namespace", "annotations", "labels"]) : SameOutside r (r.setMeta key value hname) where
  fields other hother := by rw [Resource.setMeta, fields_withMetadata, Fields.get?_insert, if_neg (Ne.symm hother)]
  metadata other hother := get?_metadata_setMeta_of_ne r key value hname fun h => hother (h ▸ hkey)

end SameOutside

variable (r : Resource)

/-- An edit changes namespace, annotations and labels at most. -/
theorem sameOutside_apply (e : Edit) : SameOutside r (e.apply r) := by
  cases e with
  | scope ns => exact .setMeta r _ (by decide) (by decide)
  | annotate key value => exact .setMeta r _ (by decide) (by decide)
  | label key value => exact .setMeta r _ (by decide) (by decide)
  | unannotate key =>
    exact ⟨fun other h => get?_removeAnnotation_of_ne key r h,
      fun other h => get?_metadata_removeAnnotation_of_ne key r fun hother => h (by simp [hother])⟩

/-- However an object is edited, it stays the same there. -/
theorem sameOutside_edited (edits : List Edit) : SameOutside r (r.edited edits) := by
  induction edits generalizing r with
  | nil => exact .refl r
  | cons e rest ih => exact (sameOutside_apply r e).trans (ih (e.apply r))

/-- An edit decides the entry that it touches and leaves every other one as it is. -/
theorem get?_slot_apply (e : Edit) {map : String} (hmap : map ≠ "namespace") (key : String) :
    ((e.apply r).metadata.slot map).get? key =
      (e.makes map key).elim ((r.metadata.slot map).get? key) (·.map Json.string) := by
  cases e with
  | scope ns =>
    exact congrArg (Fields.get? key)
      (Fields.slot_congr (get?_metadata_setMeta_of_ne r "namespace" _ (by decide) hmap))
  | annotate k value =>
    rw [Edit.apply, setAnnotation, get?_slot_setEntry, Edit.makes]
    simp only [eq_comm (a := "annotations")]
    split <;> rfl
  | label k value =>
    rw [Edit.apply, setLabel, get?_slot_setEntry, Edit.makes]
    simp only [eq_comm (a := "labels")]
    split <;> rfl
  | unannotate k =>
    rw [Edit.apply, Edit.makes]
    by_cases hannotations : map = "annotations"
    · rw [hannotations, slot_removeAnnotation, Fields.get?_erase]
      by_cases hk : k = key <;> simp [hk]
    · rw [if_neg fun h => hannotations h.1, Option.elim_none,
        Fields.slot_congr (get?_metadata_removeAnnotation_of_ne k r hannotations)]

/-- After edits, the last one that touches an entry has decided it. -/
theorem get?_slot_edited (edits : List Edit) {map : String} (hmap : map ≠ "namespace") (key : String) :
    ((r.edited edits).metadata.slot map).get? key =
      (lastMade map key edits).elim ((r.metadata.slot map).get? key) (·.map Json.string) := by
  induction edits generalizing r with
  | nil => rfl
  | cons e rest ih =>
    have hrest : ((r.edited (e :: rest)).metadata.slot map).get? key = _ := ih (e.apply r)
    rw [hrest, get?_slot_apply r e hmap, lastMade_cons]
    cases lastMade map key rest <;> rfl

/-- A text that was set last is read, and an entry that no edit touches is read as before. -/
theorem string?_slot_edited (edits : List Edit) {map : String} (hmap : map ≠ "namespace") (key : String) :
    ((r.edited edits).metadata.slot map).string? key =
      (lastMade map key edits).getD ((r.metadata.slot map).string? key) := by
  rw [Fields.string?_eq, Fields.string?_eq, get?_slot_edited r edits hmap]
  rcases lastMade map key edits with _ | _ | value <;> rfl

variable {r}

/-- Edits in place do not get stuck, and do what they do to the object. -/
theorem foldlM_inPlace? (hwf : r.toJson.WellFormed) (edits : List Edit) :
    edits.foldlM Edit.inPlace? r.fields = some (r.edited edits).fields := by
  induction edits generalizing r with
  | nil => rfl
  | cons e rest ih =>
    rw [List.foldlM_cons, inPlace?_fields hwf]
    exact ih (wellFormed_apply hwf e)

/-- After any edits the object is a resource as before, with its kind and name. The last edit that touches an
annotation or a label decides what is read, an entry that none touches is as it was, and nothing outside of
namespace, annotations and labels has changed. So no edit gets stuck in place, and no stamp does after them. -/
theorem edited_keeps_identity_and_entries {v : Json} {r : Resource} (hwf : v.WellFormed) (h : ofJson v = .ok r)
    (edits : List Edit) :
    let s := r.edited edits
    ofJson s.toJson = .ok s ∧ (s.apiVersion = r.apiVersion ∧ s.kind = r.kind ∧ s.name = r.name) ∧
    (∀ key, s.annotation? key = (lastMade "annotations" key edits).getD (r.annotation? key)) ∧
    (∀ key, s.label? key = (lastMade "labels" key edits).getD (r.label? key)) ∧
    (∀ map ∈ ["annotations", "labels"], ∀ key, lastMade map key edits = none →
      (s.metadata.slot map).get? key = (r.metadata.slot map).get? key) ∧
    (∀ key, key ≠ "metadata" → s.fields.get? key = r.fields.get? key) ∧
    (∀ key, key ∉ ["namespace", "annotations", "labels"] → s.metadata.get? key = r.metadata.get? key) ∧
    edits.foldlM Edit.inPlace? r.fields = some s.fields ∧
    ∀ (c : MemoryCluster) (given : Option String),
      MemoryCluster.stampInPlace? given c.nextUid (c.lastVersion + 1) s.toJson =
          some (c.stamp given s).1.toJson ∧
        ofJson (c.stamp given s).1.toJson = .ok (c.stamp given s).1 := by
  intro s
  have hsame : SameOutside r s := sameOutside_edited r edits
  have hstart : r.toJson.WellFormed := toJson_of_ofJson h ▸ hwf
  refine ⟨ofJson_toJson s, ⟨hsame.apiVersion_eq, hsame.kind_eq, hsame.name_eq⟩,
    string?_slot_edited r edits (by decide), string?_slot_edited r edits (by decide), fun map hmap key hnone => ?_,
    hsame.fields, hsame.metadata, foldlM_inPlace? hstart edits, fun c given => ?_⟩
  · have hname : map ≠ "namespace" := by
      rintro rfl
      exact absurd hmap (by decide)
    rw [get?_slot_edited r edits hname, hnone, Option.elim_none]
  · exact ⟨MemoryCluster.stampInPlace?_toJson c given s, ofJson_toJson _⟩

/-- The only annotation is taken away and its map with it, which a later edit makes again; what stood for the
labels is none and makes room for them. -/
theorem edited_keeps_identity_and_entries_of_remade_maps :
    let object (annotations labels : Json) (more : Fields) : Fields :=
      [("apiVersion", .string "v1"), ("kind", .string "ConfigMap"),
        ("metadata", .object ([("annotations", annotations), ("labels", labels), ("name", .string "x")] ++ more))]
    let start : Fields := object (.object [("a", .string "1")]) (.string "none") []
    let edits : List Edit :=
      [.unannotate "a", .annotate "b" "2", .label "l" "3", .scope "ns", .annotate "b" "4"]
    let w : Json := .object
      (object (.object [("b", .string "4")]) (.object [("l", .string "3")]) [("namespace", .string "ns")])
    Json.WellFormed (.object start) ∧ ∃ r, ofJson (.object start) = .ok r ∧ (r.edited edits).toJson = w ∧
      ofJson w = .ok (r.edited edits) ∧
      (r.edited edits).annotation? "a" = none ∧ (r.edited edits).annotation? "b" = some "4" ∧
      (r.edited edits).label? "l" = some "3" ∧ (r.edited edits).name = "x" := by
  intro object start edits w
  have hwf : Json.WellFormed (.object start) := by decide
  let r : Resource := ⟨start, by decide, by decide, by decide⟩
  have hr : ofJson (.object start) = .ok r := rfl
  obtain ⟨hagain, ⟨-, -, hname⟩, hannotations, hlabels, -⟩ := edited_keeps_identity_and_entries hwf hr edits
  have hw : (r.edited edits).toJson = w := by decide
  exact ⟨hwf, r, hr, hw, hw ▸ hagain, (hannotations "a").trans (by decide), (hannotations "b").trans (by decide),
    (hlabels "l").trans (by decide), hname.trans (by decide)⟩

end Resource

end Reconcile
