import Reconcile.Proofs.Command.Apply
import Reconcile.Proofs.Command.Touched

/-!
# What a run has handled

While objects are brought onto a sound cluster the run notes their uids. Afterwards these are exactly
the uids of the objects under the identities for which the inputs stand.
-/

namespace Reconcile

open MemoryCluster (keyOf)

namespace Resource

/-- Where the object is stored for which an input stands, if its kind is served. -/
def storedAt? (kinds : List KindInfo) (defaultScope : String) (r : Resource) : Option Identity :=
  (r.target? kinds defaultScope).map Identity.normal

/-- An input of a kind that is not served is stored nowhere. -/
theorem storedAt?_of_unknown {kinds : List KindInfo} {defaultScope : String} {r : Resource}
    (h : KindInfo.find kinds r.gvk = none) : r.storedAt? kinds defaultScope = none := by
  rw [storedAt?, target?, h]
  rfl

/-- No object names the empty namespace, so its identity is a normal one. -/
theorem normal_keyOf (kind : KindInfo) (r : Resource) : (keyOf kind r).normal = keyOf kind r := by
  have hscope : r.scope?.filter (· ≠ "") = r.scope? := by
    cases h : r.scope? with
    | none => rfl
    | some ns =>
      have hne : ns ≠ "" := ne_empty_of_metaText? h
      simp [hne]
  rw [keyOf, MemoryCluster.key, Identity.normal]
  cases kind.isNamespaced with
  | true => simp only [if_true, hscope]
  | false => rfl

/-- An input of a served kind is stored where it is submitted. -/
theorem storedAt?_of_find [Compression] {kinds : List KindInfo} {defaultScope : String} {r : Resource}
    {kind : KindInfo} (h : KindInfo.find kinds r.gvk = some kind) (tag : Option String) :
    r.storedAt? kinds defaultScope =
      some (keyOf kind (r.submitted (targetScope defaultScope kind r) tag)) := by
  rw [storedAt?, target?_of_find h, Option.map_some, Option.some.injEq,
    ← (normal_key_submitted h (target?_of_find h) tag).2, ← normal_keyOf, keyOf, name_submitted]

end Resource

namespace Seen

variable {seen : Seen} {r x : Resource}

/-- An object with a uid is known by it. -/
theorem contains_insert_of_saved {uid : String} (huid : x.uid? = some uid) :
    (seen.insert x).contains r = true ↔ seen.contains r = true ∨ r.uid? = some uid := by
  simp only [insert, contains, huid, Option.any_eq_true, List.contains_iff_mem, List.mem_insert_iff,
    Bool.or_eq_true]
  constructor
  · rintro (⟨other, hother, rfl | hmem⟩ | hmem)
    · exact .inr hother
    · exact .inl (.inl ⟨other, hother, hmem⟩)
    · exact .inl (.inr hmem)
  · rintro ((⟨other, hother, hmem⟩ | hmem) | hsame)
    · exact .inl ⟨other, hother, .inr hmem⟩
    · exact .inr hmem
    · exact .inl ⟨uid, hsame, .inl rfl⟩

/-- An object without one is known by its identity. -/
theorem contains_insert_of_unsaved (huid : x.uid? = none) :
    (seen.insert x).contains r = true ↔ seen.contains r = true ∨ r.identity = x.identity := by
  simp only [insert, contains, huid, List.contains_iff_mem, List.mem_insert_iff, Bool.or_eq_true]
  constructor
  · rintro (hmem | hsame | hmem)
    · exact .inl (.inl hmem)
    · exact .inr hsame
    · exact .inl (.inr hmem)
  · rintro ((hmem | hmem) | hsame)
    · exact .inl hmem
    · exact .inr (.inr hmem)
    · exact .inr (.inl hsame)

/-- An object that was seen is known. -/
theorem contains_insert_self : (seen.insert x).contains x = true := by
  cases huid : x.uid? with
  | some uid => exact (contains_insert_of_saved huid).mpr (.inr huid)
  | none => exact (contains_insert_of_unsaved huid).mpr (.inr rfl)

/-- What was seen stays seen. -/
theorem contains_insert_of_contains (h : seen.contains r = true) : (seen.insert x).contains r = true := by
  cases huid : x.uid? with
  | some uid => exact (contains_insert_of_saved huid).mpr (.inl h)
  | none => exact (contains_insert_of_unsaved huid).mpr (.inl h)

end Seen

/-- What was seen are the objects under some identities. -/
structure Seen.Covers (seen : Seen) (c : MemoryCluster) (ids : List Identity) : Prop where
  unsaved : seen.unsaved = []
  uids : ∀ id object uid, c.objects.get? id = some object → object.uid? = some uid →
    (uid ∈ seen.uids ↔ id ∈ ids)

namespace Seen.Covers

variable {seen : Seen} {c : MemoryCluster} {ids : List Identity}

/-- Before anything was brought nothing was seen. -/
theorem empty (c : MemoryCluster) : Seen.empty.Covers c [] := ⟨rfl, by simp [Seen.empty]⟩

/-- The order of the identities does not count. -/
theorem congr {others : List Identity} (h : seen.Covers c ids) (hsame : ∀ id, id ∈ ids ↔ id ∈ others) :
    seen.Covers c others :=
  ⟨h.unsaved, fun id object uid hobject huid => (h.uids id object uid hobject huid).trans (hsame id)⟩

/-- Whether an object was seen is a question of its identity. -/
theorem contains_eq (h : seen.Covers c ids) (sound : c.Sound) {id : Identity} {object : Resource}
    (hobject : c.objects.get? id = some object) : seen.contains object = decide (id ∈ ids) := by
  obtain ⟨uid, huid⟩ := (sound.fits id object hobject).saved
  have hiff := h.uids id object uid hobject huid
  simp [Seen.contains, h.unsaved, huid, hiff]

/-- Bringing one object more adds its identity. -/
theorem insert [Compression] (h : seen.Covers c ids) {c' : MemoryCluster} {kind : KindInfo}
    {object stored : Resource} {hwf : object.toJson.WellFormed} {became : Outcome} (sound : c'.Sound)
    (one : Brought c kind hwf stored became c') :
    (seen.insert stored).Covers c' (ids ++ [keyOf kind object]) := by
  obtain ⟨own, hown⟩ := (sound.fits _ stored one.found).saved
  have hinsert : seen.insert stored = { seen with uids := seen.uids.insert own } := by
    simp only [Seen.insert, hown]
  rw [hinsert]
  refine ⟨h.unsaved, fun id other uid hother huid => ?_⟩
  simp only [List.mem_insert_iff, List.mem_append, List.mem_singleton]
  by_cases hid : id = keyOf kind object
  · subst hid
    rw [one.found, Option.some.injEq] at hother
    subst hother
    rw [hown, Option.some.injEq] at huid
    simp [huid]
  · have hne : uid ≠ own := by
      rintro rfl
      exact hid (sound.distinct id _ other stored hother one.found (huid.trans hown.symm))
    rw [one.others hid] at hother
    simp [hne, hid, h.uids id other uid hother huid]

end Seen.Covers

namespace BroughtAll

variable [Compression] {defaultScope : String} {options : UpdateOptions} {c c' : MemoryCluster}
  {report report' : UpdateReport} {objects : List Resource}

/-- Bringing inputs onto a cluster leaves its kinds as they are. -/
theorem kinds_eq (h : BroughtAll defaultScope options c report objects c' report') :
    c'.kinds = c.kinds := by
  induction h with
  | nil => rfl
  | skip _ _ _ ih => exact ih
  | step _ _ one _ ih => exact ih.trans one.kinds_eq

/-- It says nothing of garbage. -/
theorem gc_eq (h : BroughtAll defaultScope options c report objects c' report') :
    report'.gc = report.gc := by
  induction h with
  | nil => rfl
  | skip _ _ _ ih => exact ih
  | step _ _ _ _ ih => exact ih

/-- It leaves the cluster sound. -/
theorem sound (h : BroughtAll defaultScope options c report objects c' report') (sound : c.Sound) :
    c'.Sound := by
  induction h with
  | nil => exact sound
  | skip _ _ _ ih => exact ih sound
  | step _ known one _ ih => exact ih (one.sound sound (by rw [Resource.gvk_submitted, known]))

/-- It leaves the objects known by kind, namespace and name. -/
theorem keyed (h : BroughtAll defaultScope options c report objects c' report') (keyed : c.Keyed) :
    c'.Keyed := by
  induction h with
  | nil => exact keyed
  | skip _ _ _ ih => exact ih keyed
  | step _ known one _ ih => exact ih (one.keyed keyed (by rw [Resource.gvk_submitted, known]))

/-- What was seen stays seen. -/
theorem seen (h : BroughtAll defaultScope options c report objects c' report') {x : Resource}
    (hx : report.seen.contains x = true) : report'.seen.contains x = true := by
  induction h with
  | nil => exact hx
  | skip _ _ _ ih => exact ih hx
  | step _ _ _ _ ih => exact ih (Seen.contains_insert_of_contains hx)

/-- After a run the uids noted are those of the objects for which the inputs stand. -/
theorem covers (h : BroughtAll defaultScope options c report objects c' report') (sound : c.Sound)
    {ids : List Identity} (hids : report.seen.Covers c ids) :
    report'.seen.Covers c' (ids ++ objects.filterMap (Resource.storedAt? c.kinds defaultScope)) := by
  induction h generalizing ids with
  | nil => simpa using hids
  | skip unknown _ _ ih =>
    rw [List.filterMap_cons, Resource.storedAt?_of_unknown unknown]
    exact ih sound hids
  | step _ known one _ ih =>
    have hsound := one.sound sound (by rw [Resource.gvk_submitted, known])
    have hlater := ih hsound (hids.insert hsound one)
    rw [one.kinds_eq, List.append_assoc] at hlater
    rw [List.filterMap_cons, Resource.storedAt?_of_find known options.gcTag]
    exact hlater

end BroughtAll

end Reconcile
