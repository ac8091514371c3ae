import Reconcile.Comparison.Equality

/-!
# Summary of a difference

How many members and items one value adds to, changes in and lacks of another. A member whose
value differs counts by what differs inside it; an item that differs counts as one change.
-/

namespace Reconcile

/-- Counts of additions, changes and removals. -/
structure Summary where
  adds : Nat
  updates : Nat
  removes : Nat
deriving DecidableEq

namespace Summary

/-- Nothing differs. -/
def zero : Summary := ⟨0, 0, 0⟩

/-- The sum of two counts. -/
def add (a b : Summary) : Summary := ⟨a.adds + b.adds, a.updates + b.updates, a.removes + b.removes⟩

/-- Summaries of parts add up to that of the whole. -/
instance : Add Summary := ⟨add⟩

end Summary

namespace Json

/-- How many items differ from the item in the same place. -/
def changedItems (target base : List Json) : Nat :=
  (target.zip base).countP fun pair => !pair.1.sameValue pair.2

mutual

/-- What `target` adds to, changes in and lacks of `base`. -/
def summary : Json → Json → Summary
  | .object target, .object base =>
    summaryFields target base + ⟨0, 0, ((Fields.keys base).filter fun k => !Fields.has k target).length⟩
  | .array target, .array base =>
    ⟨target.length - base.length, changedItems target base, base.length - target.length⟩
  | target, base => if target.sameValue base then .zero else ⟨0, 1, 0⟩

/-- What the members of an object add and change. -/
def summaryFields : List (String × Json) → Fields → Summary
  | [], _ => .zero
  | (k, v) :: rest, base =>
    (match base.get? k with
      | none => ⟨1, 0, 0⟩
      | some w => if v.sameValue w then .zero else summary v w)
      + summaryFields rest base

end

end Json

end Reconcile
