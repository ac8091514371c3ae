import Reconcile.Comparison.Equality

/-!
# Merge patches

A merge patch is a value that is laid over another: an object changes the members it names, null
takes a member away, and everything else replaces what was there. `MergePatch.threeWay` computes
the patch that leads from the live object to the config, given the config that was applied last:
what only that one had is taken away, and what neither had stays.
-/

namespace Reconcile.MergePatch

mutual

/-- Lays a patch over a value. -/
def apply : Json → Json → Json
  | .object patch, target => .object (applyFields patch (target.object?.getD []))
  | patch, _ => patch

/-- Lays the members of a patch over an object, one by one. -/
def applyFields : List (String × Json) → Fields → Fields
  | [], target => target
  | (k, .null) :: rest, target => applyFields rest (target.erase k)
  | (k, v) :: rest, target =>
    applyFields rest (target.insert k (apply v ((target.get? k).getD .null)))

end

/-- The keys that were applied last, are there still and are wanted no more. -/
def dropped (last modified current : Fields) : List String :=
  last.keys.filter fun k => !modified.has k && current.has k

/-- Adds the removal of keys to a patch. -/
def withRemovals (keys : List String) (patch : Fields) : Fields :=
  keys.foldl (fun patch k => patch.insert k .null) patch

mutual

/-- The patch for a member that both sides have; none when it needs no change. -/
def member? (last : Option Json) : Json → Json → Option Json
  | .object modified, .object current =>
    let before := (last.bind Json.object?).getD []
    match withRemovals (dropped before modified current) (additions before modified current) with
    | [] => none
    | patch => some (.object patch)
  | modified, current => if modified.sameValue current then none else some modified

/-- The members that have to be added or changed. -/
def additions (last : Fields) : List (String × Json) → Fields → Fields
  | [], _ => []
  | (k, v) :: rest, current =>
    match current.get? k with
    | none => (k, v) :: additions last rest current
    | some w =>
      match member? (last.get? k) v w with
      | none => additions last rest current
      | some patch => (k, patch) :: additions last rest current

end

/-- The patch between two objects. -/
def fields (last modified current : Fields) : Fields :=
  withRemovals (dropped last modified current) (additions last modified current)

/-- The patch that leads from `current` to `modified`, when `last` was applied last. -/
def threeWay (last modified current : Json) : Json :=
  match modified, current with
  | .object m, .object c => .object (fields (last.object?.getD []) m c)
  | _, _ => if modified.sameValue current then .object [] else modified

/-- Whether a patch changes nothing. -/
def isNoop : Json → Bool
  | .object members => members.isEmpty
  | _ => false

end Reconcile.MergePatch
