import Reconcile.Proofs.MergePatch.Noop
import Reconcile.Proofs.MergePatch.Unowned

/-!
# Patches that change nothing

The patch between a config and a live object is empty only where laying it over the object changes
nothing. The converse has one exception: a null that a config states under a key which the live object
lacks is put into the patch, where it takes away what is not there.
-/

namespace Reconcile

namespace MergePatch

open Json (SameAt WellFormed)

/-- A config states a null under a key that the live value, an object in that place, does not have. -/
def StatesIdleNull (modified current : Json) : Prop :=
  ∃ path key, modified.at? (path ++ [key]) = some .null ∧
    ∃ members : Fields, current.at? path = some (.object members) ∧ members.get? key = none

/-- What a config states under one key is an idle null, or has one inside. -/
def IdleUnder (stated : Option Json) : Option Json → Prop
  | none => stated = some .null
  | some live => ∃ v, stated = some v ∧ StatesIdleNull v live

/-- An idle null is under one of the keys of the config. -/
theorem statesIdleNull_object_iff {modified current : Fields} :
    StatesIdleNull (.object modified) (.object current) ↔
      ∃ key, IdleUnder (modified.get? key) (current.get? key) := by
  constructor
  · rintro ⟨path, key, hnull, members, hmembers, hnone⟩
    cases path with
    | nil =>
      obtain rfl : current = members := Json.object.inj (Option.some.inj hmembers)
      refine ⟨key, ?_⟩
      rw [hnone, IdleUnder]
      simpa [Json.at?, Json.get?] using hnull
    | cons first rest =>
      rw [List.cons_append, Json.at?_object] at hnull
      rw [Json.at?_object] at hmembers
      obtain ⟨v, hv, hnull⟩ := Option.bind_eq_some_iff.mp hnull
      obtain ⟨w, hw, hmembers⟩ := Option.bind_eq_some_iff.mp hmembers
      refine ⟨first, ?_⟩
      rw [hw]
      exact ⟨v, hv, rest, key, hnull, members, hmembers, hnone⟩
  · rintro ⟨key, h⟩
    cases hw : current.get? key with
    | none =>
      rw [hw, IdleUnder] at h
      exact ⟨[], key, by rw [List.nil_append, Json.at?_object, h]; rfl, current, rfl, hw⟩
    | some w =>
      rw [hw] at h
      obtain ⟨v, hv, path, last, hnull, members, hmembers, hnone⟩ := h
      refine ⟨key :: path, last, ?_, members, ?_, hnone⟩
      · rw [List.cons_append, Json.at?_object, hv, Option.bind_some, hnull]
      · rw [Json.at?_object, hw, Option.bind_some, hmembers]

/-- There is none where one side is no object. -/
theorem not_statesIdleNull_of_not_object {modified current : Json}
    (h : modified.object? = none ∨ current.object? = none) : ¬StatesIdleNull modified current := by
  rintro ⟨path, key, hnull, members, hmembers, -⟩
  rcases h with h | h
  · cases path <;> cases modified <;> simp_all [Json.at?, Json.get?, Json.object?]
  · cases path <;> cases current <;> simp_all [Json.at?, Json.get?, Json.object?]

section Fields

variable (last : Fields) {modified current : Fields} (hm : WellFormed (.object modified))
  (hc : WellFormed (.object current))
  (hboth : ∀ key v w, modified.get? key = some v → current.get? key = some w →
    (member? (last.get? key) v w = none ↔
      SameAt (appliedMember (member? (last.get? key) v w) (some w)) (some w) ∧ ¬StatesIdleNull v w))

include hm hc hboth

/-- A patch says nothing under a key exactly when it changes nothing there and no idle null is stated. -/
theorem get?_fields_eq_none_iff (key : String) :
    (fields last modified current).get? key = none ↔
      SameAt (appliedMember ((fields last modified current).get? key) (current.get? key))
          (current.get? key) ∧
        ¬IdleUnder (modified.get? key) (current.get? key) := by
  obtain ⟨rising, -⟩ := Json.wellFormed_object_iff.mp hm
  obtain ⟨-, each⟩ := Json.wellFormed_object_iff.mp hc
  rw [get?_fields rising]
  cases hv : modified.get? key with
  | none =>
    cases hw : current.get? key with
    | none => simp [appliedMember, IdleUnder]
    | some w => cases last.has key <;> simp [appliedMember, IdleUnder, Json.sameValue_self (each key w hw)]
  | some v =>
    cases hw : current.get? key with
    | none =>
      -- what is added changes something, unless it is a null
      by_cases hnull : v = .null
      · simp [hnull, appliedMember, IdleUnder]
      · simp [appliedMember_some hnull]
    | some w => simpa [IdleUnder] using hboth key v w hv hw

/-- So a patch says nothing at all exactly when it changes nothing and no idle null is stated. -/
theorem fields_eq_nil_iff_same :
    fields last modified current = [] ↔
      (Json.object (applyFields (fields last modified current) current)).sameValue (.object current) = true ∧
        ¬StatesIdleNull (.object modified) (.object current) := by
  obtain ⟨rising, -⟩ := Json.wellFormed_object_iff.mp hm
  obtain ⟨hrising, -⟩ := Json.wellFormed_object_iff.mp hc
  rw [fields_eq_nil_iff rising, Json.sameValue_object_iff (rising_applyFields _ hrising) hrising,
    statesIdleNull_object_iff, not_exists, ← forall_and]
  refine forall_congr' fun key => ?_
  rw [get?_applyFields (rising_fields rising last current)]
  exact get?_fields_eq_none_iff last hm hc hboth key

end Fields

/-- Where one side is no object, a value that is not the same as the live one changes it. -/
theorem not_sameAt_appliedMember {modified current : Json}
    (h : modified.object? = none ∨ current.object? = none) (hother : modified.sameValue current = false) :
    ¬SameAt (appliedMember (some modified) (some current)) (some current) := by
  by_cases hnull : modified = .null
  · simp [hnull, appliedMember]
  rw [appliedMember_some hnull, Json.sameAt_some, Option.getD_some, Bool.not_eq_true]
  cases modified with
  | object members =>
    -- an object is laid down, and the live value is none
    cases current with
    | object _ => simp [Json.object?] at h
    | _ => rfl
  | _ => exact hother

/-- Where the values are not both objects, the patch leaves a member out exactly when it changes nothing
and is no idle null. -/
theorem member?_eq_none_iff_of_not_object {last : Option Json} {modified current : Json}
    (h : modified.object? = none ∨ current.object? = none) (hc : current.WellFormed) :
    member? last modified current = none ↔
      SameAt (appliedMember (member? last modified current) (some current)) (some current) ∧
        ¬StatesIdleNull modified current := by
  rw [and_iff_left (not_statesIdleNull_of_not_object h), member?_of_not_object h]
  cases hsame : modified.sameValue current with
  | true => simp [appliedMember, Json.sameValue_self hc]
  | false => exact iff_of_false (by simp) (not_sameAt_appliedMember h hsame)

/-- A patch for a member is missing exactly when it changes nothing there and no idle null is stated. -/
theorem member?_eq_none_iff {last : Option Json} {modified current : Json} (hm : modified.WellFormed)
    (hc : current.WellFormed) :
    member? last modified current = none ↔
      SameAt (appliedMember (member? last modified current) (some current)) (some current) ∧
        ¬StatesIdleNull modified current := by
  induction modified generalizing last current with
  | object modified ih =>
    cases current with
    | object current =>
      obtain ⟨-, each⟩ := Json.wellFormed_object_iff.mp hm
      obtain ⟨-, ceach⟩ := Json.wellFormed_object_iff.mp hc
      rw [appliedMember_object, Json.sameAt_some, member?_object,
        ← fields_eq_nil_iff_same (lastFields last) hm hc fun key v w hv hw =>
          ih _ (Fields.mem_of_get? hv) (each key v hv) (ceach key w hw)]
      split
      next h => exact iff_of_true rfl h
      next h => exact iff_of_false (by simp) h
    | _ => exact member?_eq_none_iff_of_not_object (.inr rfl) hc
  | _ => exact member?_eq_none_iff_of_not_object (.inl rfl) hc

/-- The patch between a config and a live object is empty exactly when laying it over the object changes
nothing and the config states no null for what the object does not have. -/
theorem isNoop_threeWay_iff (last : Fields) {modified current : Fields}
    (hm : WellFormed (.object modified)) (hc : WellFormed (.object current)) :
    isNoop (threeWay (.object last) (.object modified) (.object current)) = true ↔
      (apply (threeWay (.object last) (.object modified) (.object current)) (.object current)).sameValue
          (.object current) = true ∧
        ¬StatesIdleNull (.object modified) (.object current) := by
  obtain ⟨-, each⟩ := Json.wellFormed_object_iff.mp hm
  obtain ⟨-, ceach⟩ := Json.wellFormed_object_iff.mp hc
  have hnil := fields_eq_nil_iff_same last hm hc fun key v w hv hw =>
    member?_eq_none_iff (each key v hv) (ceach key w hw)
  exact List.isEmpty_iff.trans hnil

/-- The patch is empty where a number is written in another way and a null is there on both sides, so that
null is not idle. -/
theorem isNoop_threeWay_of_shared_null :
    let three : WideInt := ⟨3, by decide⟩
    let last : Fields := [("gone", .bool true)]
    let modified : Fields := [("spec", .object [("replicas", .number (.integer three)), ("x", .null)])]
    let current : Fields :=
      [("other", .bool true),
        ("spec", .object [("replicas", .number (.float (Number.integer three).toBinary64)), ("x", .null)])]
    isNoop (threeWay (.object last) (.object modified) (.object current)) = true ∧
      ¬StatesIdleNull (.object modified) (.object current) := by
  intro three last modified current
  have hempty : isNoop (threeWay (.object last) (.object modified) (.object current)) = true := by
    decide +kernel
  exact ⟨hempty, ((isNoop_threeWay_iff last (by decide) (by decide)).mp hempty).2⟩

/-- A null under a key that the live object lacks changes nothing, but the patch is not empty. -/
theorem isNoop_threeWay_of_idle_null :
    let modified : Fields := [("x", .null)]
    WellFormed (.object modified) ∧ WellFormed (.object []) ∧
      (apply (threeWay (.object []) (.object modified) (.object [])) (.object [])).sameValue (.object []) = true ∧
      isNoop (threeWay (.object []) (.object modified) (.object [])) = false := by
  decide

end MergePatch

end Reconcile
