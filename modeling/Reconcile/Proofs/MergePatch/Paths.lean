import Reconcile.Proofs.MergePatch.Apply

/-!
# Paths that leave a patch

A path of keys leads from an object to a value inside it. Where it leaves a patch, at a key that the
patch lacks, the patch says nothing, and laying it over a value keeps what was at the path or that
nothing was there.
-/

namespace Reconcile

/-- The value at the end of a path of keys. -/
def Json.at? : List String → Json → Option Json
  | [], v => some v
  | key :: rest, v => (v.get? key).bind (Json.at? rest)

/-- A path into an object leads through the member that it names. -/
theorem Json.at?_object (key : String) (rest : List String) (members : Fields) :
    (Json.object members).at? (key :: rest) = (members.get? key).bind (Json.at? rest) := rfl

namespace MergePatch

/-- Whether a path leaves a patch at a key that the patch lacks. -/
def leaves : List String → Json → Bool
  | key :: rest, .object members =>
    match Fields.get? key members with
    | none => true
    | some patch => leaves rest patch
  | _, _ => false

/-- A path that leaves a patch leaves what the patch has under its first key, if it has that. -/
theorem leaves_cons_iff {key : String} {rest : List String} {patch : Json} :
    leaves (key :: rest) patch = true ↔ ∃ members : Fields, patch = .object members ∧
      ∀ inner, members.get? key = some inner → leaves rest inner = true := by
  cases patch with
  | object members =>
    rw [leaves]
    cases hkey : Fields.get? key members <;> simp [hkey]
  | _ => simp [leaves]

/-- A patch keeps what is at a path that leaves it. -/
theorem at?_apply_of_leaves {path : List String} {patch : Json} (hwf : patch.WellFormed)
    (h : leaves path patch = true) (target : Json) : (apply patch target).at? path = target.at? path := by
  induction path generalizing patch target with
  | nil => simp [leaves] at h
  | cons key rest ih =>
    obtain ⟨members, rfl, hinner⟩ := leaves_cons_iff.mp h
    obtain ⟨rising, each⟩ := Json.wellFormed_object_iff.mp hwf
    have hbefore : target.get? key = (target.object?.getD []).get? key := by cases target <;> rfl
    rw [apply, Json.at?_object, get?_applyFields rising, Json.at?, hbefore]
    cases hkey : Fields.get? key members with
    | none => rfl
    | some inner =>
      have hleaves := hinner inner hkey
      cases rest with
      | nil => simp [leaves] at hleaves
      | cons next more =>
        obtain ⟨below, rfl, -⟩ := leaves_cons_iff.mp hleaves
        rw [appliedMember_some (by simp), Option.bind_some, ih (each key _ hkey) hleaves]
        -- nothing is at the rest of a path where nothing was before
        cases (target.object?.getD []).get? key <;> rfl

end MergePatch

end Reconcile
