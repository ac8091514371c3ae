import Reconcile.MergePatch
import Reconcile.Proofs.Json.Fields

/-!
# What a patch does to each member

Laying a patch over an object changes every member by itself: `MergePatch.get?_applyFields` gives
the new value from the old one and from what the patch says under the same key. A value without
null members is laid over anything that is no object as it stands, `MergePatch.apply_eq_self`.
-/

namespace Reconcile

namespace Json

mutual

/-- No member of an object is null, at any depth that is reached through members alone. What
stands in an array does not count. -/
def nullFree : Json → Bool
  | .object members => nullFreeFields members
  | _ => true

/-- No member is null, nor any member of an object among the values. -/
def nullFreeFields : List (String × Json) → Bool
  | [] => true
  | (_, v) :: rest => !v.isNull && nullFree v && nullFreeFields rest

end

/-- Members are free of nulls when each of them is no null and free of nulls. -/
theorem nullFreeFields_iff {fields : Fields} :
    nullFreeFields fields = true ↔ ∀ m ∈ fields, m.2 ≠ .null ∧ m.2.nullFree = true := by
  induction fields with
  | nil => simp [nullFreeFields]
  | cons m rest ih =>
    simp [nullFreeFields, ih, ← isNull_iff]

/-- So is whatever is found among them. -/
theorem nullFree_get? {fields : Fields} {key : String} {v : Json}
    (h : nullFreeFields fields = true) (hv : fields.get? key = some v) :
    v ≠ .null ∧ v.nullFree = true := nullFreeFields_iff.mp h _ (Fields.mem_of_get? hv)

/-- A member that is not null and has no null member may be put in. -/
theorem nullFreeFields_insert {fields : Fields} (h : nullFreeFields fields = true) (k : String) {v : Json}
    (hnull : v ≠ .null) (hv : v.nullFree = true) : nullFreeFields (fields.insert k v) = true := by
  refine nullFreeFields_iff.mpr fun m hm => ?_
  rcases Fields.mem_insert hm with rfl | hm
  · exact ⟨hnull, hv⟩
  · exact nullFreeFields_iff.mp h m hm

end Json

namespace MergePatch

open Json (nullFree nullFreeFields)

/-- What becomes of a member, by what the patch says under its key: nothing said keeps it, null
takes it away, and a value is laid over it. -/
def appliedMember : Option Json → Option Json → Option Json
  | none, old => old
  | some .null, _ => none
  | some patch, old => some (apply patch (old.getD .null))

/-- A member that a patch has is applied to what is there, or to nothing. -/
theorem appliedMember_some {patch : Json} (h : patch ≠ .null) (old : Option Json) :
    appliedMember (some patch) old = some (apply patch (old.getD .null)) := by
  cases patch <;> first | rfl | exact absurd rfl h

/-- One member of a patch leaves all others alone. -/
theorem applyFields_cons (k : String) (v : Json) (rest target : Fields) :
    applyFields ((k, v) :: rest) target =
      applyFields rest (match appliedMember (some v) (target.get? k) with
        | none => target.erase k
        | some w => target.insert k w) := by
  cases v <;> simp [applyFields, appliedMember]

/-- The first member of a patch changes what is under its own key alone. -/
theorem get?_applyFields_cons (k key : String) (v : Json) (target : Fields) :
    Fields.get? key (match appliedMember (some v) (target.get? k) with
        | none => target.erase k
        | some w => target.insert k w) =
      if k = key then appliedMember (some v) (target.get? k) else target.get? key := by
  cases happlied : appliedMember (some v) (target.get? k) with
  | none => simpa only using Fields.get?_erase key k target
  | some w => simpa only using Fields.get?_insert key k w target

/-- A patch acts on every member by itself. -/
theorem get?_applyFields {patch : Fields} (rising : patch.Rising) (target : Fields) (key : String) :
    (applyFields patch target).get? key = appliedMember (patch.get? key) (target.get? key) := by
  induction patch generalizing target with
  | nil => rfl
  | cons member rest ih =>
    obtain ⟨k, v⟩ := member
    rw [applyFields_cons, ih (Fields.rising_cons.mp rising).2, get?_applyFields_cons,
      Fields.get?_cons]
    by_cases hk : k = key
    · subst hk
      rw [if_pos rfl, if_pos rfl, Fields.get?_eq_none_of_rising rising]
      rfl
    · rw [if_neg hk, if_neg hk]

/-- Laying a patch over an object keeps its keys rising. -/
theorem rising_applyFields (patch : Fields) {target : Fields} (h : target.Rising) :
    (applyFields patch target).Rising := by
  induction patch generalizing target with
  | nil => exact h
  | cons member rest ih =>
    obtain ⟨k, v⟩ := member
    rw [applyFields_cons]
    apply ih
    split
    · exact h.erase k
    · exact h.insert k _

/-- A well formed patch leaves a well formed value. -/
theorem wellFormed_apply {patch target : Json} (hp : patch.WellFormed) (ht : target.WellFormed) :
    (apply patch target).WellFormed := by
  induction patch generalizing target with
  | object patch ih =>
    obtain ⟨rising, each⟩ := Json.wellFormed_object_iff.mp hp
    obtain ⟨ht, heach⟩ := Json.wellFormed_object_iff.mp ht.object?
    rw [apply, Json.wellFormed_object_iff]
    refine ⟨rising_applyFields patch ht, fun key v hv => ?_⟩
    rw [get?_applyFields rising] at hv
    cases hpatch : patch.get? key with
    | none =>
      rw [hpatch] at hv
      exact heach key v hv
    | some w =>
      by_cases hw : w = .null
      · simp [hpatch, hw, appliedMember] at hv
      · rw [hpatch, appliedMember_some hw] at hv
        have hold : (((target.object?.getD []).get? key).getD .null).WellFormed := by
          cases hold : (target.object?.getD []).get? key with
          | none => exact .null
          | some old => exact heach key old hold
        exact Option.some.inj hv ▸ ih _ (Fields.mem_of_get? hpatch) (each key w hpatch) hold
  | _ => simpa only [apply] using hp

/-- A value without null members is laid over anything but an object as it stands. -/
theorem apply_eq_self {v target : Json} (hv : v.WellFormed) (hfree : v.nullFree = true)
    (ht : target.object? = none) : apply v target = v := by
  induction v generalizing target with
  | object members ih =>
    obtain ⟨rising, each⟩ := Json.wellFormed_object_iff.mp hv
    rw [apply, ht]
    congr 1
    refine Fields.Rising.ext (rising_applyFields members .nil) rising fun key => ?_
    rw [get?_applyFields rising]
    cases hkey : members.get? key with
    | none => rfl
    | some w =>
      obtain ⟨hnull, hwfree⟩ := Json.nullFree_get? hfree hkey
      rw [appliedMember_some hnull]
      exact congrArg some (ih _ (Fields.mem_of_get? hkey) (each key w hkey) hwfree rfl)
  | _ => rfl

end MergePatch

end Reconcile
