import Reconcile.Comparison.Basic
import Reconcile.Proofs.MergePatch.ThreeWay
import Reconcile.Proofs.Resource.Metadata

/-!
# What a patch makes of an object

The patch that leads from a live object to a submitted one never spoils the object: what comes out
states every text that the submitted object states, so it is complete and has its kind, its name
and its namespace.
-/

namespace Reconcile

namespace MergePatch

open Json (WellFormed)

section Members

variable {last modified current : Fields} {key : String}

/-- A text of the config is there after the patch. -/
theorem get?_applyFields_fields_string (rising : modified.Rising) {s : String}
    (h : modified.get? key = some (.string s)) :
    (applyFields (fields last modified current) current).get? key = some (.string s) := by
  rw [get?_applyFields (rising_fields rising last current), get?_fields rising, h]
  cases hcurrent : current.get? key with
  | none => rfl
  | some w =>
    dsimp only
    rw [member?_of_not_object (.inl rfl)]
    by_cases hsame : Json.sameValue (.string s) w = true
    · rw [if_pos hsame]
      cases w <;> simp_all [Json.sameValue, appliedMember]
    · rw [if_neg hsame]
      rfl

/-- Only an object is laid over a value in part. -/
theorem eq_of_apply_eq_string {patch target : Json} {s : String} (h : apply patch target = .string s) :
    patch = .string s := by
  cases patch with
  | object members => simp [apply] at h
  | _ => exact h

/-- A text that is there after the patch was in the config or there before. -/
theorem get?_of_get?_applyFields_fields (rising : modified.Rising) {s : String}
    (h : (applyFields (fields last modified current) current).get? key = some (.string s)) :
    modified.get? key = some (.string s) ∨ current.get? key = some (.string s) := by
  rw [get?_applyFields (rising_fields rising last current), get?_fields rising] at h
  cases hmodified : modified.get? key with
  | none =>
    cases hcurrent : current.get? key with
    | none => simp [hmodified, hcurrent, appliedMember] at h
    | some w =>
      simp only [hmodified, hcurrent] at h
      split at h
      · simp [appliedMember] at h
      · exact .inr h
  | some v =>
    -- a patch that leaves a text is that text
    have hlaid {patch : Json} {old : Option Json} (hold : appliedMember (some patch) old = some (.string s)) :
        patch = .string s := by
      by_cases hnull : patch = .null
      · simp [hnull, appliedMember] at hold
      · rw [appliedMember_some hnull, Option.some.injEq] at hold
        exact eq_of_apply_eq_string hold
    cases hcurrent : current.get? key with
    | none =>
      simp only [hmodified, hcurrent] at h
      exact .inl (congrArg some (hlaid h))
    | some w =>
      simp only [hmodified, hcurrent] at h
      cases hmember : member? (last.get? key) v w with
      | none => exact .inr (by simpa [hmember, appliedMember] using h)
      | some patch =>
        rw [hmember] at h
        obtain rfl := hlaid h
        by_cases hobject : v.object? = none ∨ w.object? = none
        · rw [member?_of_not_object hobject] at hmember
          split at hmember
          · simp at hmember
          · exact .inl hmember
        · simp only [not_or, ← ne_eq, Option.ne_none_iff_exists'] at hobject
          obtain ⟨⟨m, hm⟩, l, hl⟩ := hobject
          cases v <;> cases w <;> simp_all [Json.object?, member?_object]

/-- An object that both sides have is patched by itself. -/
theorem get?_applyFields_fields_object (rising : modified.Rising) {m l : Fields}
    (hm : modified.get? key = some (.object m)) (hl : current.get? key = some (.object l)) :
    (applyFields (fields last modified current) current).get? key =
      some (.object (applyFields (fields (lastFields (last.get? key)) m l) l)) := by
  rw [get?_applyFields (rising_fields rising last current), get?_fields rising, hm, hl]
  dsimp only
  rw [member?_object]
  split
  next hempty => rw [hempty]; rfl
  next => rfl

/-- A text in an object of the config is there after the patch. -/
theorem get?_applyFields_fields_entry (rising : modified.Rising) {inner : Fields} (hinner : inner.Rising)
    {entry s : String} (h : modified.get? key = some (.object inner))
    (hs : inner.get? entry = some (.string s)) :
    ∃ members : Fields,
      (applyFields (fields last modified current) current).get? key = some (.object members) ∧
        members.get? entry = some (.string s) := by
  have hlaid (target : Fields) : (applyFields inner target).get? entry = some (.string s) := by
    rw [get?_applyFields hinner, hs]
    rfl
  cases hcurrent : current.get? key with
  | none =>
    refine ⟨applyFields inner [], ?_, hlaid []⟩
    rw [get?_applyFields (rising_fields rising last current), get?_fields rising, h, hcurrent]
    rfl
  | some w =>
    cases w with
    | object l =>
      exact ⟨_, get?_applyFields_fields_object rising h hcurrent, get?_applyFields_fields_string hinner hs⟩
    | _ =>
      refine ⟨applyFields inner [], ?_, hlaid []⟩
      rw [get?_applyFields (rising_fields rising last current), get?_fields rising, h, hcurrent]
      rfl

end Members

/-- If what is said about each member is well formed, the patch is. -/
theorem wellFormed_fields_of_members {last modified current : Fields}
    (hm : WellFormed (.object modified))
    (hboth : ∀ key v w patch, modified.get? key = some v → current.get? key = some w →
      member? (last.get? key) v w = some patch → patch.WellFormed) :
    WellFormed (.object (fields last modified current)) := by
  obtain ⟨rising, each⟩ := Json.wellFormed_object_iff.mp hm
  refine Json.wellFormed_object_iff.mpr ⟨rising_fields rising last current, fun key patch h => ?_⟩
  rw [get?_fields rising] at h
  cases hmod : modified.get? key with
  | none =>
    cases hcur : current.get? key with
    | none => simp [hmod, hcur] at h
    | some w =>
      simp only [hmod, hcur] at h
      split at h
      · exact Option.some.inj h ▸ .null
      · simp at h
  | some v =>
    cases hcur : current.get? key with
    | none =>
      simp only [hmod, hcur, Option.some.injEq] at h
      exact h ▸ each key v hmod
    | some w =>
      simp only [hmod, hcur] at h
      exact hboth key v w patch hmod hcur h

/-- The patch of a member is well formed whenever the value that is asked for is. -/
theorem wellFormed_member? {last : Option Json} {modified current patch : Json}
    (hm : modified.WellFormed) (h : member? last modified current = some patch) :
    patch.WellFormed := by
  induction modified generalizing last current patch with
  | object modified ih =>
    obtain ⟨-, each⟩ := Json.wellFormed_object_iff.mp hm
    cases current with
    | object current =>
      have hfields : WellFormed (.object (fields (lastFields last) modified current)) :=
        wellFormed_fields_of_members hm fun key v w inner hv _ h =>
          ih _ (Fields.mem_of_get? hv) (each key v hv) h
      rw [member?_object] at h
      split at h
      · simp at h
      · exact Option.some.inj h ▸ hfields
    | _ =>
      rw [member?_of_not_object (.inr rfl)] at h
      split at h
      · simp at h
      · exact Option.some.inj h ▸ hm
  | _ =>
    rw [member?_of_not_object (.inl rfl)] at h
    split at h
    · simp at h
    · exact Option.some.inj h ▸ hm

/-- The patch between two objects is well formed when the config is. -/
theorem wellFormed_fields (last current : Fields) {modified : Fields}
    (hm : WellFormed (.object modified)) : WellFormed (.object (fields last modified current)) := by
  obtain ⟨-, each⟩ := Json.wellFormed_object_iff.mp hm
  exact wellFormed_fields_of_members hm fun key v w patch hv _ h => wellFormed_member? (each key v hv) h

/-- So is the patch as a whole. -/
theorem wellFormed_threeWay (last current : Json) {modified : Json} (hm : modified.WellFormed) :
    (threeWay last modified current).WellFormed := by
  unfold threeWay
  split
  · exact wellFormed_fields _ _ hm
  · split
    · exact .nil
    · exact hm

end MergePatch

namespace Resource

open MergePatch

/-- The metadata of a resource is an object. -/
theorem get?_metadata (r : Resource) : r.fields.get? "metadata" = some (.object r.metadata) := by
  obtain ⟨name, hname, -⟩ := Fields.hasText_iff.mp r.complete.name
  cases hmetadata : r.fields.object? "metadata" with
  | none => simp [Fields.slot, hmetadata] at hname
  | some members =>
    rw [metadata, Fields.slot, hmetadata]
    exact Fields.get?_of_object? hmetadata

/-- Where a text of metadata is stated, it is a member. -/
theorem get?_of_metaText? {r : Resource} {key s : String} (h : r.metaText? key = some s) :
    r.metadata.get? key = some (.string s) := by
  have htext := (Option.filter_eq_some_iff.mp h).1
  rw [Fields.string?] at htext
  split at htext
  next t ht => exact Option.some.inj htext ▸ ht
  next => simp at htext

/-- Texts of metadata follow from the members. -/
theorem metaText?_of_get? {r other : Resource} {key s : String} (h : r.metaText? key = some s)
    (hother : other.metadata.get? key = some (.string s)) : other.metaText? key = some s := by
  rw [metaText?, Fields.string?_eq, hother]
  exact Option.filter_some_pos (Option.filter_eq_some_iff.mp h).2

section Patched

variable {object : Resource} (hwf : object.toJson.WellFormed) (last : Fields) (live : Resource)

/-- The members of a live object after the patch. -/
def patchedFields (last : Fields) (object live : Resource) : Fields :=
  applyFields (MergePatch.fields last object.fields live.fields) live.fields

include hwf

/-- A text that is asked for is there once the patch was applied. -/
theorem get?_patchedFields {key s : String} (h : object.fields.get? key = some (.string s)) :
    (patchedFields last object live).get? key = some (.string s) :=
  get?_applyFields_fields_string (Json.wellFormed_object_iff.mp hwf).1 h

/-- Metadata is patched by itself. -/
theorem slot_patchedFields :
    (patchedFields last object live).slot "metadata" =
      applyFields (MergePatch.fields (lastFields (last.get? "metadata")) object.metadata live.metadata)
        live.metadata :=
  Fields.slot_of_get? (get?_applyFields_fields_object (Json.wellFormed_object_iff.mp hwf).1
    object.get?_metadata live.get?_metadata)

/-- A text that is asked for in the metadata is there once the patch was applied. -/
theorem get?_metadata_patchedFields {key s : String} (h : object.metadata.get? key = some (.string s)) :
    ((patchedFields last object live).slot "metadata").get? key = some (.string s) := by
  rw [slot_patchedFields hwf]
  exact get?_applyFields_fields_string (Json.wellFormed_object_iff.mp (wellFormed_metadata hwf)).1 h

/-- What comes out of the patch is complete. -/
theorem complete_patchedFields : Complete (patchedFields last object live) := by
  obtain ⟨version, hversion, hversion'⟩ := Fields.hasText_iff.mp object.complete.apiVersion
  obtain ⟨kind, hkind, hkind'⟩ := Fields.hasText_iff.mp object.complete.kind
  obtain ⟨name, hname, hname'⟩ := Fields.hasText_iff.mp object.complete.name
  constructor
  · exact Fields.hasText_iff.mpr ⟨version, get?_patchedFields hwf last live hversion, hversion'⟩
  · exact Fields.hasText_iff.mpr ⟨kind, get?_patchedFields hwf last live hkind, hkind'⟩
  · exact Fields.hasText_iff.mpr ⟨name, get?_metadata_patchedFields hwf last live hname, hname'⟩

end Patched

/-- A live object after the patch that leads to another. -/
def patched {object : Resource} (hwf : object.toJson.WellFormed) (last : Fields) (live : Resource) :
    Resource :=
  ⟨patchedFields last object live, complete_patchedFields hwf last live⟩

variable [Compression] in
/-- The patch that leads from a live object to this one. -/
def patchTo (object live : Resource) : Json :=
  threeWay (lastAppliedOf live).1 object.toJson live.toJson

section Patched

variable {object : Resource} (hwf : object.toJson.WellFormed) (last : Fields) (live : Resource)

/-- A text that is asked for in the metadata is read from that of the patched object. -/
theorem metaText?_patched {key s : String} (h : object.metaText? key = some s) :
    (patched hwf last live).metaText? key = some s :=
  metaText?_of_get? h (get?_metadata_patchedFields hwf last live (get?_of_metaText? h))

/-- A text of metadata that neither states is not there after the patch. -/
theorem metaText?_patched_eq_none {key : String} (hobject : object.metaText? key = none)
    (hlive : live.metaText? key = none) : (patched hwf last live).metaText? key = none := by
  cases htext : (patched hwf last live).metaText? key with
  | none => rfl
  | some s =>
    have hmember : ((patchedFields last object live).slot "metadata").get? key = some (.string s) :=
      get?_of_metaText? htext
    rw [slot_patchedFields hwf] at hmember
    have hrising := (Json.wellFormed_object_iff.mp (wellFormed_metadata hwf)).1
    rcases get?_of_get?_applyFields_fields hrising hmember with hstated | hstated
    · exact absurd (hobject.symm.trans (metaText?_of_get? htext hstated)) (by simp)
    · exact absurd (hlive.symm.trans (metaText?_of_get? htext hstated)) (by simp)

/-- An annotation that is submitted is there after the patch. -/
theorem annotation?_patched {key s : String} (h : object.annotation? key = some s) :
    (patched hwf last live).annotation? key = some s := by
  have hmeta := wellFormed_metadata hwf
  rw [annotation?, Fields.string?_eq] at h
  obtain ⟨v, hv, hs⟩ := Option.bind_eq_some_iff.mp h
  obtain rfl : v = .string s := by
    cases v <;> simp_all [Json.string?]
  cases hannotations : object.metadata.object? "annotations" with
  | none => simp [Fields.slot, hannotations] at hv
  | some annotations =>
    rw [Fields.slot, hannotations, Option.getD_some] at hv
    have hmember := Fields.get?_of_object? hannotations
    have hrising := (Json.wellFormed_object_iff.mp ((Json.wellFormed_object_iff.mp hmeta).2 _ _ hmember)).1
    have hslot : (patched hwf last live).metadata = applyFields
        (MergePatch.fields (lastFields (last.get? "metadata")) object.metadata live.metadata)
          live.metadata := slot_patchedFields hwf last live
    obtain ⟨members, hmembers, hentry⟩ : ∃ members : Fields,
        (patched hwf last live).metadata.get? "annotations" = some (.object members) ∧
          members.get? key = some (.string s) := by
      rw [hslot]
      exact get?_applyFields_fields_entry (Json.wellFormed_object_iff.mp hmeta).1 hrising hmember hv
    rw [annotation?, Fields.slot_of_get? hmembers, Fields.string?_eq, hentry]
    rfl

/-- A text that is asked for is read from the patched object. -/
theorem string?_patched {key s : String} (h : object.fields.get? key = some (.string s)) :
    (patched hwf last live).fields.string? key = object.fields.string? key := by
  rw [Fields.string?_eq, Fields.string?_eq, h, patched, get?_patchedFields hwf last live h]

/-- The kind is the submitted one's. -/
@[simp] theorem gvk_patched : (patched hwf last live).gvk = object.gvk := by
  obtain ⟨version, hversion, -⟩ := Fields.hasText_iff.mp object.complete.apiVersion
  obtain ⟨kind, hkind, -⟩ := Fields.hasText_iff.mp object.complete.kind
  rw [gvk, gvk, apiVersion, apiVersion, Resource.kind, Resource.kind,
    string?_patched hwf last live hversion, string?_patched hwf last live hkind]

/-- The name is the submitted one's. -/
@[simp] theorem name_patched : (patched hwf last live).name = object.name := by
  obtain ⟨name, hname, hne⟩ := Fields.hasText_iff.mp object.complete.name
  have htext : object.metaText? "name" = some name := by
    rw [metaText?, Fields.string?_eq, metadata, hname]
    exact Option.filter_some_pos (by simpa using hne)
  rw [Resource.name, Resource.name, metaText?_patched hwf last live htext, htext]

/-- An object stays well formed when it is patched. -/
theorem wellFormed_patched (hlive : live.toJson.WellFormed) :
    (patched hwf last live).toJson.WellFormed :=
  wellFormed_apply (wellFormed_fields last live.fields hwf) hlive

variable [Compression]

/-- The server accepts the patch. -/
theorem ofJson_apply_patchTo :
    ofJson (apply (object.patchTo live) live.toJson) =
      .ok (patched hwf ((lastAppliedOf live).1.object?.getD []) live) := by
  have hcomplete := complete_patchedFields hwf ((lastAppliedOf live).1.object?.getD []) live
  show ofFields (patchedFields _ object live) = _
  rw [ofFields, dif_pos hcomplete.apiVersion, dif_pos hcomplete.kind, dif_pos hcomplete.name]
  rfl

/-- A patch that changes nothing leads to an object as it is. -/
theorem patched_eq_of_noop (h : MergePatch.isNoop (object.patchTo live) = true) :
    patched hwf ((lastAppliedOf live).1.object?.getD []) live = live := by
  have hpatch : object.patchTo live = .object [] := by
    rcases hcase : object.patchTo live with _ | _ | _ | _ | _ | members
    all_goals rw [hcase] at h
    all_goals first | contradiction | skip
    rw [List.isEmpty_iff.mp h]
  have hpatched := ofJson_apply_patchTo hwf live
  rw [hpatch] at hpatched
  exact Except.ok.inj (hpatched.symm.trans (ofJson_toJson live))

end Patched

end Resource

end Reconcile
