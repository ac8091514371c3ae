import Reconcile.Cluster.Memory
import Reconcile.Proofs.Json.Fields
import Reconcile.Proofs.Resource.Metadata

/-!
# What a server keeps in an object

A cluster in memory puts a uid, a resource version and a time of creation into every object it
stores. Everything else in the object stays. As long as versions are left the next one is greater by one,
and no two uids that are counted are the same.
-/

namespace Reconcile

namespace MemoryCluster

/-- The digits of a counted uid, read as a number again. -/
theorem ofDigitChars_countedUid (n : Nat) :
    Nat.ofDigitChars 10
      (List.replicate (12 - (toString n).toList.length) '0' ++ (toString n).toList) 0 = n := by
  rw [Nat.ofDigitChars_append, Nat.ofDigitChars_replicate_zero, Nat.mul_zero,
    Nat.toString_eq_ofList_toDigits, String.toList_ofList, Nat.ofDigitChars_ten_toDigits]

/-- Uids counted at different times are different. -/
theorem countedUids_injective : Function.Injective countedUids := by
  intro m n h
  have hsame : countedUid m = countedUid n := congrArg Subtype.val h
  unfold countedUid at hsame
  have hdigits := String.ofList_inj.mp ((String.append_right_inj _).mp hsame)
  have hread := congrArg (Nat.ofDigitChars 10 · 0) hdigits
  simpa only [ofDigitChars_countedUid] using hread

/-- Whatever the source of uids, none that is made up is empty. -/
theorem nextUid_ne_empty (c : MemoryCluster) : c.nextUid ≠ "" := (c.uids (c.madeUids + 1)).property

/-- As long as versions are left, the next one is greater by one. -/
theorem toNat_nextVersion {c : MemoryCluster} (h : c.versionsSpent = false) :
    (c.lastVersion + 1).toNat = c.lastVersion.toNat + 1 := by
  have hlt := c.lastVersion.toNat_lt
  have hleft : c.lastVersion + 1 ≠ 0 := fun hzero => by simp [versionsSpent, hzero] at h
  have hsum : (c.lastVersion + 1).toNat ≠ 0 := fun hzero => hleft (UInt64.toNat_inj.mp hzero)
  rw [UInt64.toNat_add] at hsum ⊢
  simp only [UInt64.toNat_one] at hsum ⊢
  omega

/-- Only the greatest number is without a next one. -/
theorem toNat_lastVersion_of_versionsSpent {c : MemoryCluster} (h : c.versionsSpent = true) :
    c.lastVersion.toNat + 1 = UInt64.size := by
  have hlt := c.lastVersion.toNat_lt
  have hsum : (c.lastVersion + 1).toNat = 0 := congrArg UInt64.toNat (eq_of_beq h)
  rw [UInt64.toNat_add, UInt64.toNat_one] at hsum
  simp only [UInt64.size]
  omega

end MemoryCluster

/-- A version is written as the number that it is. -/
theorem toString_version (version : UInt64) : (toString version : String) = toString version.toNat := rfl

namespace Resource

/-- Versions are not kept where names are. -/
theorem resourceVersion_ne_name : "resourceVersion" ≠ "name" := by decide

/-- Nor are times of creation. -/
theorem creationTimestamp_ne_name : "creationTimestamp" ≠ "name" := by decide

/-- The object with what the server keeps in it. -/
def stampedWith (uid : String) (version : UInt64) (object : Resource) : Resource :=
  let stamped :=
    (object.setUid uid).setMeta "resourceVersion" (toString version : String) resourceVersion_ne_name
  if stamped.metadata.has "creationTimestamp" then stamped
  else stamped.setMeta "creationTimestamp" MemoryCluster.creationTime creationTimestamp_ne_name

section StampedWith

variable (uid : String) (version : UInt64) (object : Resource)

/-- The object was given a uid and a resource version, and a time of creation where it had none. -/
theorem stampedWith_cases :
    (object.metadata.has "creationTimestamp" = true ∧
      object.stampedWith uid version =
        (object.setUid uid).setMeta "resourceVersion" (toString version : String)) ∨
    (object.metadata.has "creationTimestamp" = false ∧
      object.stampedWith uid version =
        ((object.setUid uid).setMeta "resourceVersion" (toString version : String)).setMeta
          "creationTimestamp" MemoryCluster.creationTime) := by
  have hhas : ((object.setUid uid).setMeta "resourceVersion" (toString version : String)).metadata.has
      "creationTimestamp" = object.metadata.has "creationTimestamp" := by
    simp [setUid, Fields.has, Fields.get?_insert]
  rw [stampedWith, hhas]
  cases object.metadata.has "creationTimestamp" with
  | true => exact .inl ⟨rfl, rfl⟩
  | false => exact .inr ⟨rfl, rfl⟩

/-- A stored object stays of its kind. -/
@[simp] theorem gvk_stampedWith : (object.stampedWith uid version).gvk = object.gvk := by
  obtain ⟨-, h⟩ | ⟨-, h⟩ := stampedWith_cases uid version object <;> simp [h, setUid]

/-- It keeps its name. -/
@[simp] theorem name_stampedWith : (object.stampedWith uid version).name = object.name := by
  obtain ⟨-, h⟩ | ⟨-, h⟩ := stampedWith_cases uid version object <;> simp [h, setUid]

/-- It keeps its namespace. -/
@[simp] theorem scope?_stampedWith : (object.stampedWith uid version).scope? = object.scope? := by
  obtain ⟨-, h⟩ | ⟨-, h⟩ := stampedWith_cases uid version object <;> simp [h, setUid, scope?_setMeta]

/-- It has the uid that it was stored with. -/
theorem uid?_stampedWith (huid : uid ≠ "") : (object.stampedWith uid version).uid? = some uid := by
  have hset : (object.setUid uid).uid? = some uid := by
    rw [uid?, setUid, metaText?_setMeta, if_pos rfl]
    simp [Json.string?, huid]
  obtain ⟨-, h⟩ | ⟨-, h⟩ := stampedWith_cases uid version object <;> simp [h, uid?_setMeta, hset]

/-- What is stamped has the version that was put in. -/
theorem resourceVersion?_stampedWith :
    (object.stampedWith uid version).resourceVersion? = some (toString version) := by
  have hne : (toString version : String) ≠ "" := by simp [toString_version]
  obtain ⟨-, h⟩ | ⟨-, h⟩ := stampedWith_cases uid version object <;>
    simp [h, resourceVersion?, metaText?_setMeta, Json.string?, hne]

/-- Outside of metadata nothing changes. -/
theorem get?_stampedWith {key : String} (hkey : key ≠ "metadata") :
    (object.stampedWith uid version).fields.get? key = object.fields.get? key := by
  obtain ⟨-, h⟩ | ⟨-, h⟩ := stampedWith_cases uid version object <;>
    simp [h, setUid, setMeta, Fields.get?_insert, Ne.symm hkey]

/-- What the object states in metadata stays, but for uid and resource version. -/
theorem get?_metadata_stampedWith {key : String} {v : Json} (hv : object.metadata.get? key = some v)
    (huid : key ≠ "uid") (hversion : key ≠ "resourceVersion") :
    (object.stampedWith uid version).metadata.get? key = some v := by
  obtain ⟨-, h⟩ | ⟨hnone, h⟩ := stampedWith_cases uid version object
  · simp [h, setUid, Fields.get?_insert, hv, Ne.symm huid, Ne.symm hversion]
  · have hkey : "creationTimestamp" ≠ key := by
      rintro rfl
      simp [Fields.has, hv] at hnone
    simp [h, setUid, Fields.get?_insert, hv, Ne.symm huid, Ne.symm hversion, hkey]

/-- The uid is the one that was stamped. -/
theorem get?_uid_stampedWith :
    (object.stampedWith uid version).metadata.get? "uid" = some (.string uid) := by
  obtain ⟨-, h⟩ | ⟨-, h⟩ := stampedWith_cases uid version object <;> simp [h, setUid, Fields.get?_insert]

/-- Stamping changes uid, resource version and time of creation alone. -/
theorem get?_metadata_stampedWith_of_ne {key : String} (huid : key ≠ "uid")
    (hversion : key ≠ "resourceVersion") (htime : key ≠ "creationTimestamp") :
    (object.stampedWith uid version).metadata.get? key = object.metadata.get? key := by
  obtain ⟨-, h⟩ | ⟨-, h⟩ := stampedWith_cases uid version object <;>
    simp [h, setUid, Fields.get?_insert, Ne.symm huid, Ne.symm hversion, Ne.symm htime]

/-- A stored object keeps its annotations. -/
theorem annotation?_stampedWith (key : String) :
    (object.stampedWith uid version).annotation? key = object.annotation? key := by
  rw [annotation?, annotation?, Fields.slot_congr
    (get?_metadata_stampedWith_of_ne uid version object (by decide) (by decide) (by decide))]

/-- It stays well formed. -/
theorem wellFormed_stampedWith (h : object.toJson.WellFormed) :
    (object.stampedWith uid version).toJson.WellFormed := by
  have hstamped :
      ((object.setUid uid).setMeta "resourceVersion" (toString version : String)).toJson.WellFormed :=
    wellFormed_setMeta (wellFormed_setMeta h (.string uid) (by decide)) (.string _) (by decide)
  obtain ⟨-, hcase⟩ | ⟨-, hcase⟩ := stampedWith_cases uid version object
  · rw [hcase]
    exact hstamped
  · rw [hcase]
    exact wellFormed_setMeta hstamped (.string _) (by decide)

end StampedWith

end Resource

namespace MemoryCluster

variable (c : MemoryCluster) (object : Resource)

/-- A given uid comes before the one that the object states, and that before a new one. -/
theorem stamp_eq (given : Option String) :
    ∃ made, c.stamp given object =
      (object.stampedWith
          ((given.or (object.metadata.string? "uid")).getD c.nextUid) (c.lastVersion + 1),
        { c with lastVersion := c.lastVersion + 1, madeUids := made }) := by
  rw [stamp]
  cases given.or (object.metadata.string? "uid") with
  | some uid => exact ⟨c.madeUids, rfl⟩
  | none => exact ⟨c.madeUids + 1, rfl⟩

/-- A given uid is kept. -/
theorem stamp_of_uid (uid : String) :
    c.stamp (some uid) object =
      (object.stampedWith uid (c.lastVersion + 1), { c with lastVersion := c.lastVersion + 1 }) := rfl

/-- An object that states no uid gets a new one. -/
theorem stamp_of_unsaved (h : object.metadata.string? "uid" = none) :
    c.stamp none object =
      (object.stampedWith c.nextUid (c.lastVersion + 1),
        { c with lastVersion := c.lastVersion + 1, madeUids := c.madeUids + 1 }) := by
  simp only [stamp, Option.none_or, h]
  rfl

end MemoryCluster

end Reconcile
