import Reconcile.Proofs.Cluster.Shared
import Reconcile.Proofs.MergePatch.Paths

/-!
# What a patch keeps of an object

A cluster stamps whatever it stores, so every object in it has a uid, and a patch leaves it in place.
Resource version and time of creation are the cluster's own. Apart from these, a stored patch keeps
the value at every path that leaves the patch: `MemoryCluster.Stamped.keeps_of_patch`.
-/

namespace Reconcile

open MergePatch (leaves)

namespace Resource

/-- An object as a cluster stores it: its keys rise, and a text stands for its uid. -/
structure Stamped (object : Resource) : Prop where
  wellFormed : object.toJson.WellFormed
  uid : ∃ uid, object.metadata.get? "uid" = some (.string uid)

/-- The members of metadata but for what a cluster changes with every patch. -/
def bareMetadata (object : Resource) : Fields :=
  (object.metadata.erase "resourceVersion").erase "creationTimestamp"

/-- The object without what a cluster changes with every patch. -/
def bare (object : Resource) : Json := .object (object.fields.insert "metadata" (.object object.bareMetadata))

/-- Metadata stays in order when the marks of the server are taken off. -/
theorem rising_bareMetadata {object : Resource} (h : object.toJson.WellFormed) :
    object.bareMetadata.Rising :=
  ((Json.wellFormed_object_iff.mp (wellFormed_metadata h)).1.erase _).erase _

section Paths

variable (object : Resource) (key : String) (rest : List String)

/-- A path into the metadata of an object leads through the entry that it names. -/
theorem at?_toJson_metadata :
    object.toJson.at? ("metadata" :: key :: rest) = (object.metadata.get? key).bind (Json.at? rest) := by
  rw [toJson, Json.at?_object, get?_metadata, Option.bind_some, Json.at?_object]

/-- Taking the marks of the server off changes nothing outside the metadata. -/
theorem at?_bare_of_ne (h : key ≠ "metadata") :
    object.bare.at? (key :: rest) = object.toJson.at? (key :: rest) := by
  rw [bare, toJson, Json.at?_object, Json.at?_object, Fields.get?_insert, if_neg (Ne.symm h)]

/-- What is left of the metadata stands where the metadata stood. -/
theorem at?_bare_metadata :
    object.bare.at? ("metadata" :: rest) = Json.at? rest (.object object.bareMetadata) := by
  rw [bare, Json.at?_object, Fields.get?_insert, if_pos rfl, Option.bind_some]

/-- Of the metadata all is left but the marks of the server. -/
theorem get?_bareMetadata :
    object.bareMetadata.get? key =
      if "resourceVersion" = key ∨ "creationTimestamp" = key then none else object.metadata.get? key := by
  rw [bareMetadata, Fields.get?_erase, Fields.get?_erase]
  by_cases hversion : "resourceVersion" = key <;> by_cases htime : "creationTimestamp" = key <;>
    simp [hversion, htime]

end Paths

/-- An object that was stamped is stamped. -/
theorem Stamped.stampedWith {object : Resource} (h : object.toJson.WellFormed) (uid : String)
    (version : UInt64) : (object.stampedWith uid version).Stamped :=
  ⟨wellFormed_stampedWith uid version object h, uid, get?_uid_stampedWith uid version object⟩

section Kept

variable {current patched : Resource} (stamped : current.Stamped) {made : String}

include stamped

/-- Where a patch keeps the uid, it is the one that is stamped. -/
theorem Stamped.get?_uid (hsame : patched.metadata.get? "uid" = current.metadata.get? "uid") :
    current.metadata.get? "uid" =
      some (.string ((current.uid?.or (patched.metadata.string? "uid")).getD made)) := by
  obtain ⟨uid, huid⟩ := stamped.uid
  have hcurrent : current.metadata.string? "uid" = some uid := by
    rw [Fields.string?_eq, huid]
    rfl
  have hpatched : patched.metadata.string? "uid" = some uid := by
    rw [Fields.string?_eq, hsame, huid]
    rfl
  rw [huid, hpatched, uid?, metaText?, hcurrent]
  by_cases hempty : uid = "" <;> simp [Option.filter, hempty]

variable {version : UInt64}

/-- What a patch keeps at a path of metadata is kept when it is stamped. -/
theorem Stamped.at?_bareMetadata {key : String} {rest : List String}
    (hsame : (patched.metadata.get? key).bind (Json.at? rest) =
      (current.metadata.get? key).bind (Json.at? rest)) :
    ((patched.stampedWith ((current.uid?.or (patched.metadata.string? "uid")).getD made)
      version).bareMetadata.get? key).bind (Json.at? rest) =
        (current.bareMetadata.get? key).bind (Json.at? rest) := by
  rw [get?_bareMetadata, get?_bareMetadata]
  by_cases hown : "resourceVersion" = key ∨ "creationTimestamp" = key
  · rw [if_pos hown, if_pos hown]
  obtain ⟨hversion, htime⟩ := not_or.mp hown
  rw [if_neg hown, if_neg hown]
  by_cases huid : key = "uid"
  · subst huid
    rw [get?_uid_stampedWith]
    cases rest with
    | nil => rw [stamped.get?_uid (by simpa [Json.at?] using hsame)]
    | cons next more =>
      -- a uid is a text and has nothing below it
      obtain ⟨uid, hcurrent⟩ := stamped.uid
      rw [hcurrent]
      rfl
  · rw [get?_metadata_stampedWith_of_ne _ _ _ huid (Ne.symm hversion) (Ne.symm htime), hsame]

/-- What a patch keeps at a path is kept when it is stamped. -/
theorem Stamped.at?_bare (hwf : patched.toJson.WellFormed) {key : String} {rest : List String}
    (hsame : patched.toJson.at? (key :: rest) = current.toJson.at? (key :: rest)) :
    (patched.stampedWith ((current.uid?.or (patched.metadata.string? "uid")).getD made)
      version).bare.at? (key :: rest) = current.bare.at? (key :: rest) := by
  by_cases hkey : key = "metadata"
  · subst hkey
    rw [at?_bare_metadata, at?_bare_metadata]
    cases rest with
    | nil =>
      have hmetadata : patched.metadata = current.metadata := by
        simpa [toJson, Json.at?, Json.get?, get?_metadata] using hsame
      refine congrArg (fun members => some (Json.object members)) (Fields.Rising.ext
        (rising_bareMetadata (wellFormed_stampedWith _ _ _ hwf)) (rising_bareMetadata stamped.wellFormed)
        fun key => ?_)
      have hmember := @Stamped.at?_bareMetadata current patched stamped made version key [] (by rw [hmetadata])
      simpa [Json.at?] using hmember
    | cons key rest =>
      rw [at?_toJson_metadata, at?_toJson_metadata] at hsame
      exact stamped.at?_bareMetadata hsame
  · rw [at?_bare_of_ne _ _ _ hkey, at?_bare_of_ne _ _ _ hkey, ← hsame, toJson, toJson, Json.at?_object,
      Json.at?_object, get?_stampedWith _ _ _ hkey]

end Kept

end Resource

namespace MemoryCluster

/-- Every object of the cluster was stamped. -/
def Stamped (c : MemoryCluster) : Prop := ∀ id object, c.objects.get? id = some object → object.Stamped

namespace Stamped

variable {c : MemoryCluster} (stamped : c.Stamped)

include stamped

/-- They stay so when one that was stamped is put in. -/
theorem afterPut {object : Resource} (h : object.Stamped) (id : Identity) (made : Nat)
    (calls : List String) : (c.afterPut id object made calls).Stamped := by
  intro other x hx
  simp only [MemoryCluster.afterPut, Store.get?_insert] at hx
  split at hx
  · exact Option.some.inj hx ▸ h
  · exact stamped other x hx

/-- Whatever a client does, the objects of a cluster are stamped. -/
theorem deed {c' : MemoryCluster} (h : c.Deed c') : c'.Stamped := by
  cases h with
  | create kind scope wellFormed =>
    obtain ⟨e, h⟩ | ⟨-, -, uid, made, -, h⟩ := create_cases (c := c) kind scope _ <;> rw [h]
    · exact stamped
    · exact stamped.afterPut (.stampedWith (Resource.wellFormed_inScope _ _ wellFormed) _ _) _ _ _
  | patch kind scope name wellFormed =>
    obtain ⟨e, h⟩ | ⟨-, current, patched, uid, made, hcurrent, hpatched, -, h⟩ :=
      patch_cases (c := c) kind scope name _ <;> rw [h]
    · exact stamped
    · refine stamped.afterPut (.stampedWith ?_ _ _) _ _ _
      rw [Resource.toJson_of_ofJson hpatched]
      exact MergePatch.wellFormed_apply wellFormed (stamped _ current hcurrent).wellFormed
  | delete kind scope name options =>
    exact fun id object h => stamped id object ((keeps_of_delete kind scope name options).2 id object h)

/-- A patch that is stored keeps the value at every path that leaves it. -/
theorem keeps_of_patch {kind : KindInfo} {scope : Option String} {name : String} {patch : Json}
    (hwf : patch.WellFormed) {stored : Resource} {c' : MemoryCluster}
    (h : c.patch kind scope name patch = (.ok stored, c')) :
    ∃ current, c.objects.get? (key kind scope name) = some current ∧
      c'.objects.get? (key kind scope name) = some stored ∧
      ∀ path, leaves path patch = true → stored.bare.at? path = current.bare.at? path := by
  obtain ⟨e, hfailed⟩ | ⟨-, current, patched, uid, made, hcurrent, hpatched, huid, hdone⟩ :=
    patch_cases (c := c) kind scope name patch
  · rw [hfailed] at h
    simp at h
  rw [hdone, Prod.mk.injEq, Except.ok.injEq] at h
  obtain ⟨rfl, rfl⟩ := h
  refine ⟨current, hcurrent, ?_, fun path hleaves => ?_⟩
  · rw [MemoryCluster.afterPut, Store.get?_insert, if_pos rfl]
  have htarget := stamped _ current hcurrent
  have hsame := MergePatch.at?_apply_of_leaves hwf hleaves current.toJson
  rw [← Resource.toJson_of_ofJson hpatched] at hsame
  have hpatchedWf : patched.toJson.WellFormed := by
    rw [Resource.toJson_of_ofJson hpatched]
    exact MergePatch.wellFormed_apply hwf htarget.wellFormed
  cases path with
  | nil => simp [leaves] at hleaves
  | cons key rest =>
    rw [huid]
    exact htarget.at?_bare hpatchedWf hsame

end Stamped

end MemoryCluster

end Reconcile
