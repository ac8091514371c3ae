import Reconcile.Cluster.Session
import Reconcile.Proofs.Json.Fields
import Reconcile.Snapshot

/-!
# Editing metadata

Every editing operation replaces one member of `metadata` and nothing else, so kind and name stay
and each other text of `metadata` stays too. The lemmas here say so for each operation, and the
rest of the theory reads objects through them.
-/

namespace Reconcile

namespace Fields

/-- The text under a key depends on the value there alone. -/
theorem string?_eq (key : String) (fields : Fields) :
    fields.string? key = (fields.get? key).bind Json.string? := by
  rw [string?]
  rcases fields.get? key with _ | (_ | _ | _ | _ | _ | _) <;> rfl

/-- The object under a key depends on the value there alone. -/
theorem object?_eq (key : String) (fields : Fields) :
    fields.object? key = (fields.get? key).bind Json.object? := by
  rw [object?]
  rcases fields.get? key with _ | (_ | _ | _ | _ | _ | _) <;> rfl

/-- The members under a key depend on the value there alone. -/
theorem slot_congr {key : String} {fields other : Fields} (h : fields.get? key = other.get? key) :
    fields.slot key = other.slot key := by
  rw [slot, slot, object?_eq, object?_eq, h]

/-- What is found as an object is read as one. -/
theorem object?_of_get? {key : String} {fields members : Fields}
    (h : fields.get? key = some (.object members)) : fields.object? key = some members := by
  rw [object?_eq, h]
  rfl

/-- A text is read from what was put in last. -/
theorem string?_insert (key k : String) (v : Json) (fields : Fields) :
    (fields.insert k v).string? key = if k = key then v.string? else fields.string? key := by
  rw [string?_eq, string?_eq, get?_insert]
  split <;> rfl

/-- The members under a key of a well formed object are well formed. -/
theorem wellFormed_slot {members : Fields} (h : Json.WellFormed (.object members)) (key : String) :
    Json.WellFormed (.object (members.slot key)) := by
  rw [slot, object?]
  split
  next inner hinner => exact (Json.wellFormed_object_iff.mp h).2 key _ hinner
  next => exact Json.WellFormed.nil

/-- There is a text under a key when it is a member and not empty. -/
theorem hasText_iff {key : String} {fields : Fields} :
    fields.hasText key = true ↔ ∃ s, fields.get? key = some (.string s) ∧ s ≠ "" := by
  rw [hasText, string?]
  rcases fields.get? key with _ | (_ | _ | _ | s | _ | _) <;> simp

/-- An object under a key is a member. -/
theorem get?_of_object? {key : String} {fields members : Fields} (h : fields.object? key = some members) :
    fields.get? key = some (.object members) := by
  rw [object?] at h
  split at h
  next inner hinner => exact Option.some.inj h ▸ hinner
  next => simp at h

/-- The members of an object that is found are those under the key. -/
theorem slot_of_get? {key : String} {fields members : Fields}
    (h : fields.get? key = some (.object members)) :
    fields.slot key = members := by
  rw [slot, object?_of_get? h, Option.getD_some]

end Fields

namespace Resource

/-- A resource is read back from its value. -/
theorem ofJson_toJson (r : Resource) : ofJson r.toJson = .ok r := by
  rw [toJson, ofJson, ofFields, dif_pos r.complete.apiVersion, dif_pos r.complete.kind,
    dif_pos r.complete.name]

/-- A value that is read as a resource is that resource's own. -/
theorem toJson_of_ofJson {v : Json} {r : Resource} (h : ofJson v = .ok r) : r.toJson = v := by
  cases v with
  | object members =>
    rw [ofJson, ofFields] at h
    repeat' split at h
    all_goals first | contradiction | exact Except.ok.inj h ▸ rfl
  | _ => simp [ofJson] at h

variable (r : Resource)

/-- Other metadata is put where the metadata was. -/
@[simp] theorem fields_withMetadata {members : Fields} (h) :
    (r.withMetadata members h).fields = r.fields.insert "metadata" (.object members) := rfl

/-- It is read again as it was put in. -/
@[simp] theorem metadata_withMetadata {members : Fields} (h) :
    (r.withMetadata members h).metadata = members := Fields.slot_insert_self _ _ _

/-- Other metadata leaves the version as it is. -/
@[simp] theorem apiVersion_withMetadata {members : Fields} (h) :
    (r.withMetadata members h).apiVersion = r.apiVersion := by
  simp [apiVersion, Fields.string?_insert]

/-- It leaves the kind as it is. -/
@[simp] theorem kind_withMetadata {members : Fields} (h) :
    (r.withMetadata members h).kind = r.kind := by
  simp [kind, Fields.string?_insert]

/-- So the object stays of its group, version and kind. -/
@[simp] theorem gvk_withMetadata {members : Fields} (h) :
    (r.withMetadata members h).gvk = r.gvk := by
  simp [gvk]

/-- An empty text in the metadata counts as none. -/
theorem ne_empty_of_metaText? {r : Resource} {key s : String} (h : r.metaText? key = some s) :
    s ≠ "" := by
  simpa using (Option.filter_eq_some_iff.mp h).2

/-- No object is in the empty namespace. -/
theorem scope?_ne_empty : r.scope? ≠ some "" := fun h => ne_empty_of_metaText? h rfl

/-- No uid is empty. -/
theorem uid?_ne_empty {r : Resource} {uid : String} (h : r.uid? = some uid) : uid ≠ "" :=
  ne_empty_of_metaText? h

section SetMeta

variable (key : String) (value : Json) (h : key ≠ "name")

/-- Setting something in the metadata puts it there. -/
@[simp] theorem metadata_setMeta : (r.setMeta key value h).metadata = r.metadata.insert key value :=
  metadata_withMetadata r _

/-- It leaves the group, version and kind as they are. -/
@[simp] theorem gvk_setMeta : (r.setMeta key value h).gvk = r.gvk := gvk_withMetadata r _

/-- It leaves the version as it is. -/
@[simp] theorem apiVersion_setMeta : (r.setMeta key value h).apiVersion = r.apiVersion :=
  apiVersion_withMetadata r _

/-- It leaves the kind as it is. -/
@[simp] theorem kind_setMeta : (r.setMeta key value h).kind = r.kind := kind_withMetadata r _

/-- A text of metadata after a member was put in: that member's own, or what was there. -/
theorem metaText?_setMeta (other : String) :
    (r.setMeta key value h).metaText? other =
      if key = other then value.string?.filter (· ≠ "") else r.metaText? other := by
  rw [metaText?, metadata_setMeta, Fields.string?_insert]
  split <;> rfl

/-- Setting something in the metadata leaves the name as it is. -/
@[simp] theorem name_setMeta : (r.setMeta key value h).name = r.name := by
  rw [name, metaText?_setMeta, if_neg h, name]

/-- It leaves everything else in the metadata as it is. -/
theorem get?_metadata_setMeta_of_ne {other : String} (hother : other ≠ key) :
    (r.setMeta key value h).metadata.get? other = r.metadata.get? other := by
  rw [metadata_setMeta, Fields.get?_insert, if_neg (Ne.symm hother)]

/-- It leaves the namespace as it is, unless that is set. -/
theorem scope?_setMeta (hscope : key ≠ "namespace") :
    (r.setMeta key value h).scope? = r.scope? := by
  rw [scope?, metaText?_setMeta, if_neg hscope, scope?]

/-- It leaves the uid as it is, unless that is set. -/
theorem uid?_setMeta (huid : key ≠ "uid") : (r.setMeta key value h).uid? = r.uid? := by
  rw [uid?, metaText?_setMeta, if_neg huid, uid?]

end SetMeta

/-- A text that was put into a map of metadata is there, and every other entry of a map stays. -/
theorem get?_slot_setEntry (map key value : String) (hname : map ≠ "name") (other name : String) :
    ((r.setEntry map key value hname).metadata.slot other).get? name =
      if map = other ∧ key = name then some (.string value) else (r.metadata.slot other).get? name := by
  rw [setEntry, metadata_setMeta]
  by_cases hother : map = other
  · subst hother
    rw [Fields.slot_insert_self, Fields.get?_insert]
    simp
  · rw [if_neg (fun h => hother h.1)]
    exact congrArg (Fields.get? name) (Fields.slot_congr (by rw [Fields.get?_insert, if_neg hother]))

section Annotations

variable (key value : String)

/-- An annotation is put into the map of annotations. -/
@[simp] theorem metadata_setAnnotation :
    (r.setAnnotation key value).metadata =
      r.metadata.insert "annotations"
        (.object ((r.metadata.slot "annotations").insert key (.string value))) :=
  metadata_setMeta r _ _ (by decide)

/-- An annotation leaves the group, version and kind as they are. -/
@[simp] theorem gvk_setAnnotation : (r.setAnnotation key value).gvk = r.gvk :=
  gvk_setMeta r _ _ (by decide)

/-- It leaves the name as it is. -/
@[simp] theorem name_setAnnotation : (r.setAnnotation key value).name = r.name :=
  name_setMeta r _ _ (by decide)

/-- It leaves the namespace as it is. -/
@[simp] theorem scope?_setAnnotation : (r.setAnnotation key value).scope? = r.scope? :=
  scope?_setMeta r _ _ (by decide) (by decide)

/-- It leaves the uid as it is. -/
@[simp] theorem uid?_setAnnotation : (r.setAnnotation key value).uid? = r.uid? :=
  uid?_setMeta r _ _ (by decide) (by decide)

/-- An annotation that was put in is there, and every other stays. -/
theorem annotation?_setAnnotation (other : String) :
    (r.setAnnotation key value).annotation? other =
      if key = other then some value else r.annotation? other := by
  rw [annotation?, metadata_setAnnotation, Fields.slot_insert_self, Fields.string?_insert]
  split <;> rfl

/-- A label that was put in is there, and every other stays. -/
theorem label?_setLabel (other : String) :
    (r.setLabel key value).label? other = if key = other then some value else r.label? other := by
  rw [label?, setLabel, setEntry, metadata_setMeta, Fields.slot_insert_self, Fields.string?_insert]
  split <;> rfl

/-- A label leaves the group, version and kind as they are. -/
@[simp] theorem gvk_setLabel : (r.setLabel key value).gvk = r.gvk := gvk_setMeta r _ _ (by decide)

/-- It leaves the name as it is. -/
@[simp] theorem name_setLabel : (r.setLabel key value).name = r.name := name_setMeta r _ _ (by decide)

/-- It leaves the namespace as it is. -/
@[simp] theorem scope?_setLabel : (r.setLabel key value).scope? = r.scope? :=
  scope?_setMeta r _ _ (by decide) (by decide)

/-- It leaves the uid as it is. -/
@[simp] theorem uid?_setLabel : (r.setLabel key value).uid? = r.uid? :=
  uid?_setMeta r _ _ (by decide) (by decide)

end Annotations

section Placement

/-- A namespace leaves the group, version and kind as they are. -/
@[simp] theorem gvk_setScope (ns : String) : (r.setScope ns).gvk = r.gvk := gvk_setMeta r _ _ (by decide)

/-- It leaves the name as it is. -/
@[simp] theorem name_setScope (ns : String) : (r.setScope ns).name = r.name :=
  name_setMeta r _ _ (by decide)

/-- It leaves the uid as it is. -/
@[simp] theorem uid?_setScope (ns : String) : (r.setScope ns).uid? = r.uid? :=
  uid?_setMeta r _ _ (by decide) (by decide)

/-- An object that was put into a namespace states it, unless it is the empty one. -/
@[simp] theorem scope?_setScope (ns : String) :
    (r.setScope ns).scope? = (some ns).filter (· ≠ "") := by
  rw [scope?, setScope, metaText?_setMeta, if_pos rfl]
  rfl

/-- An object is put into a namespace where it names none, and left alone otherwise. -/
theorem placedIn_cases (target : Option String) :
    (∃ ns, target = some ns ∧ r.scope? = none ∧ r.placedIn target = r.setScope ns) ∨
      (r.placedIn target = r ∧ (target = none ∨ ∃ own, r.scope? = some own)) := by
  cases target with
  | none => exact .inr ⟨rfl, .inl rfl⟩
  | some ns =>
    cases hscope : r.scope? with
    | none => exact .inl ⟨ns, rfl, rfl, by simp [placedIn, hscope]⟩
    | some own => exact .inr ⟨by simp [placedIn, hscope], .inr ⟨own, rfl⟩⟩

/-- An input that is placed stays of its kind. -/
@[simp] theorem gvk_placedIn (target : Option String) : (r.placedIn target).gvk = r.gvk := by
  obtain ⟨ns, -, -, hplaced⟩ | ⟨hplaced, -⟩ := placedIn_cases r target <;> simp [hplaced]

/-- It keeps its name. -/
@[simp] theorem name_placedIn (target : Option String) : (r.placedIn target).name = r.name := by
  obtain ⟨ns, -, -, hplaced⟩ | ⟨hplaced, -⟩ := placedIn_cases r target <;> simp [hplaced]

/-- It keeps its uid. -/
@[simp] theorem uid?_placedIn (target : Option String) : (r.placedIn target).uid? = r.uid? := by
  obtain ⟨ns, -, -, hplaced⟩ | ⟨hplaced, -⟩ := placedIn_cases r target <;> simp [hplaced]

/-- An object keeps the namespace that it names, and gets the target's otherwise. -/
theorem scope?_placedIn (target : Option String) :
    (r.placedIn target).scope? = r.scope?.or (target.filter (· ≠ "")) := by
  obtain ⟨ns, rfl, hscope, hplaced⟩ | ⟨hplaced, rfl | ⟨own, hscope⟩⟩ := placedIn_cases r target
  · rw [hplaced, hscope, scope?_setScope, Option.none_or]
  · simp [hplaced]
  · rw [hplaced, hscope, Option.some_or]

/-- Placing an object touches the namespace alone. -/
theorem get?_metadata_placedIn (target : Option String) {key : String} (h : key ≠ "namespace") :
    (r.placedIn target).metadata.get? key = r.metadata.get? key := by
  obtain ⟨ns, -, -, hplaced⟩ | ⟨hplaced, -⟩ := placedIn_cases r target
  · rw [hplaced, setScope, metadata_setMeta, Fields.get?_insert, if_neg (Ne.symm h)]
  · rw [hplaced]

end Placement

section WellFormed

variable {r : Resource} (h : r.toJson.WellFormed)

include h

/-- What is found under a key of metadata or below is well formed. -/
theorem wellFormed_metadata : Json.WellFormed (.object r.metadata) := Fields.wellFormed_slot h _

/-- An object stays well formed when something well formed is set in its metadata. -/
theorem wellFormed_setMeta {key : String} {value : Json} (hvalue : value.WellFormed)
    (hkey : key ≠ "name") : (r.setMeta key value hkey).toJson.WellFormed :=
  Json.WellFormed.insert h "metadata" ((wellFormed_metadata h).insert key hvalue)

/-- So it does when an entry of a map in it is set. -/
theorem wellFormed_setEntry {map key value : String} (hmap : map ≠ "name") :
    (r.setEntry map key value hmap).toJson.WellFormed :=
  wellFormed_setMeta h
    ((Fields.wellFormed_slot (wellFormed_metadata h) map).insert key (.string value)) hmap

/-- So it does when its namespace is set. -/
theorem wellFormed_setScope (ns : String) : (r.setScope ns).toJson.WellFormed :=
  wellFormed_setMeta h (.string ns) (by decide)

end WellFormed

end Resource

end Reconcile
