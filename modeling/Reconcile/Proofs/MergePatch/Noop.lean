import Reconcile.Proofs.Comparison.Equality
import Reconcile.Proofs.MergePatch.ThreeWay

/-!
# When a patch has nothing to say

A live value holds a config when nothing has to be added to it or changed in it. Every value holds
itself, and what a merge leaves holds the config that was merged in. Where no key was applied last
that the config lacks, nothing has to be taken away either, and the patch is empty:
`MergePatch.member?_eq_none` puts the two together.
-/

namespace Reconcile

namespace MergePatch

open Json (WellFormed)

/-- Nothing has to be added to a live value or changed in it for it to agree with a config. -/
def Holds (config live : Json) : Prop := member? none config live = none

/-- Where the values are not both objects, one holds the other when they are the same. -/
theorem holds_iff_of_not_object {config live : Json}
    (h : config.object? = none ∨ live.object? = none) :
    Holds config live ↔ config.sameValue live = true := by
  rw [Holds, member?_of_not_object h]
  simp

/-- No patch is empty exactly when there is none under any key. -/
theorem fields_eq_nil_iff {last modified current : Fields} (rising : modified.Rising) :
    fields last modified current = [] ↔ ∀ key, (fields last modified current).get? key = none := by
  constructor
  · intro h key
    rw [h]
    rfl
  · intro h
    exact (rising_fields rising last current).ext .nil h

/-- An object holds a config when it has each of its members and holds what stands there. -/
theorem holds_object_iff {config live : Fields} (rising : config.Rising) :
    Holds (.object config) (.object live) ↔
      ∀ key v, config.get? key = some v → ∃ w, live.get? key = some w ∧ Holds v w := by
  have hnone : Holds (.object config) (.object live) ↔ fields [] config live = [] := by
    rw [Holds, member?_object]
    split
    next h => simpa [lastFields] using h
    next h => simpa [lastFields] using h
  rw [hnone, fields_eq_nil_iff rising]
  refine forall_congr' fun key => ?_
  rw [get?_fields rising]
  cases hconfig : config.get? key with
  | none => cases live.get? key <;> simp [Fields.has]
  | some v => cases live.get? key <;> simp [Holds]

/-- Every value holds itself. -/
theorem holds_refl {v : Json} (hwf : v.WellFormed) : Holds v v := by
  induction v with
  | object members ih =>
    obtain ⟨rising, each⟩ := Json.wellFormed_object_iff.mp hwf
    refine (holds_object_iff rising).mpr fun key v hv => ⟨v, hv, ?_⟩
    exact ih _ (Fields.mem_of_get? hv) (each key v hv)
  | _ => exact (holds_iff_of_not_object (.inl rfl)).mpr (Json.sameValue_self hwf)

/-- What a merge makes of a member holds what the config says there. -/
theorem holds_mergedMember {last : Option Json} {modified current : Json} (hm : modified.WellFormed) :
    Holds modified (mergedMember last modified current) := by
  induction modified generalizing last current with
  | object modified ih =>
    cases current with
    | object current =>
      obtain ⟨rising, each⟩ := Json.wellFormed_object_iff.mp hm
      rw [mergedMember_object]
      refine (holds_object_iff rising).mpr fun key v hv => ?_
      rw [get?_merged, hv]
      cases Fields.get? key current with
      | none => exact ⟨v, rfl, holds_refl (each key v hv)⟩
      | some w => exact ⟨_, rfl, ih _ (Fields.mem_of_get? hv) (each key v hv)⟩
    | _ => exact holds_refl hm
  | _ =>
    rw [mergedMember_of_not_object (.inl rfl)]
    split
    next hsame => exact (holds_iff_of_not_object (.inl rfl)).mpr hsame
    next => exact holds_refl hm

/-- What a merge makes of an object holds the config. -/
theorem holds_merged (last : Fields) {modified current : Fields}
    (hm : WellFormed (.object modified)) :
    Holds (.object modified) (.object (merged last modified current)) := by
  have hmember : Holds (.object modified)
      (mergedMember (some (.object last)) (.object modified) (.object current)) := holds_mergedMember hm
  rwa [mergedMember_object] at hmember

/-- Whatever was applied last is still part of a config: at every level at which both are objects
each key of the one is a key of the other. -/
inductive Within : Option Json → Json → Prop
  | object {last : Option Json} {config : Fields}
    (keys : ∀ key, (lastFields last).has key = true → config.has key = true)
    (each : ∀ key v, config.get? key = some v → Within ((lastFields last).get? key) v) :
    Within last (.object config)
  | other {last : Option Json} {config : Json} (h : config.object? = none) : Within last config

/-- If no object was applied last, nothing of it can be missing. -/
theorem within_of_empty {last : Option Json} (h : lastFields last = []) (config : Json) :
    Within last config := by
  induction config generalizing last with
  | object config ih =>
    refine .object (by simp [h, Fields.has]) fun key v hv => ?_
    exact ih _ (Fields.mem_of_get? hv) (by rw [h]; rfl)
  | _ => exact .other rfl

/-- Nothing is within everything. -/
theorem within_none (config : Json) : Within none config := within_of_empty rfl config

/-- A config that was applied last is part of itself. -/
theorem within_self (config : Json) : Within (some config) config := by
  induction config with
  | object config ih =>
    refine .object (fun _ h => h) fun key v hv => ?_
    show Within (config.get? key) v
    rw [hv]
    exact ih _ (Fields.mem_of_get? hv)
  | _ => exact .other rfl

/-- What was applied last is part of a config when each of its members is. -/
theorem within_object {last : Option Json} {config : Fields}
    (h : ∀ key u, (lastFields last).get? key = some u →
      ∃ v, config.get? key = some v ∧ Within (some u) v) : Within last (.object config) := by
  refine .object (fun key hkey => ?_) fun key v hv => ?_
  · obtain ⟨u, hu⟩ := Fields.has_iff.mp hkey
    obtain ⟨v, hv, -⟩ := h key u hu
    exact Fields.has_iff.mpr ⟨v, hv⟩
  · cases hu : (lastFields last).get? key with
    | none => exact within_none v
    | some u =>
      obtain ⟨w, hw, hwithin⟩ := h key u hu
      rw [hv, Option.some.injEq] at hw
      exact hw ▸ hwithin

/-- The patch is empty where the live value holds the config and the config lacks nothing that was
applied last. -/
theorem member?_eq_none {last : Option Json} {config live : Json} (hwf : config.WellFormed)
    (hwithin : Within last config) (hholds : Holds config live) : member? last config live = none := by
  induction config generalizing last live with
  | object config ih =>
    cases live with
    | object live =>
      obtain ⟨rising, each⟩ := Json.wellFormed_object_iff.mp hwf
      rw [holds_object_iff rising] at hholds
      rw [member?_object, if_pos]
      refine (fields_eq_nil_iff rising).mpr fun key => ?_
      cases hwithin with
      | other hnot => simp [Json.object?] at hnot
      | object keys within =>
        rw [get?_fields rising]
        cases hconfig : config.get? key with
        | none =>
          have hlast : (lastFields last).has key = false := by
            rw [← Bool.not_eq_true]
            intro hhas
            obtain ⟨v, hv⟩ := Fields.has_iff.mp (keys key hhas)
            simp [hconfig] at hv
          cases Fields.get? key live <;> simp [hlast]
        | some v =>
          obtain ⟨w, hw, hvw⟩ := hholds key v hconfig
          rw [hw]
          exact ih _ (Fields.mem_of_get? hconfig) (each key v hconfig) (within key v hconfig) hvw
    | _ => simp [holds_iff_of_not_object, Json.object?, Json.sameValue] at hholds
  | _ =>
    rw [member?_of_not_object (.inl rfl), if_pos ((holds_iff_of_not_object (.inl rfl)).mp hholds)]

end MergePatch

end Reconcile
