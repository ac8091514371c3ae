import Reconcile.Proofs.Command.Target
import Reconcile.Proofs.Order.Basic

/-!
# Canonical orders

The sort keys of objects are told apart by whatever tells the objects apart: a namespace that is empty is
none, and an API version that is spelled in two ways for one group and version gives two keys, never one
for two identities. So the objects of an accepted list are put into an order that is strict, and there is
only one such order of them, however they were given.
-/

namespace Reconcile

namespace SortKey

variable {a b : SortKey}

/-- One key comes strictly before another: it does in the first of the five parts in which they differ. -/
def Before (a b : SortKey) : Prop :=
  a.rank < b.rank ∨ a.rank = b.rank ∧
    (a.scope < b.scope ∨ a.scope = b.scope ∧
      (a.kind < b.kind ∨ a.kind = b.kind ∧
        (a.name < b.name ∨ a.name = b.name ∧ a.apiVersion < b.apiVersion)))

/-- One key is compared as less than another exactly when it comes before it. -/
theorem compare_eq_lt_iff : a.compare b = .lt ↔ a.Before b := by
  have htext (s t : String) : Ord.compare s t = .lt ↔ s < t := compareOfLessAndEq_eq_lt
  simp only [compare, Ordering.then_eq_lt, Std.LawfulEqCmp.compare_eq_iff_eq, Before, Std.compare_eq_lt, htext]

/-- Of two keys that differ the one that comes no later comes before. -/
theorem before_of_le (hle : a.le b = true) (hne : a ≠ b) : a.Before b := by
  refine compare_eq_lt_iff.mp ?_
  have hother : a.compare b ≠ .eq := fun h => hne (eq_of_compare_eq h)
  rw [le] at hle
  cases h : a.compare b with
  | lt => rfl
  | eq => exact absurd h hother
  | gt => simp [h] at hle

end SortKey

/-- A way to order objects is canonical for a list of them: it keeps them all, each has its key strictly
before those of the later ones, and the outcome does not depend on how they were given. -/
structure CanonicalOrder (before : SortKey → SortKey → Prop) (key : Resource → SortKey)
    (order : List Resource → List Resource) (objects : List Resource) : Prop where
  perm : (order objects).Perm objects
  strict : (order objects).Pairwise fun a b => before (key a) (key b)
  eq_of_perm : ∀ other : List Resource, other.Perm objects → order other = order objects

section Canonical

variable {before : SortKey → SortKey → Prop} {key : Resource → SortKey}
  {order : List Resource → List Resource} {objects : List Resource}

/-- The reverse of a canonical order is canonical the other way round. -/
theorem CanonicalOrder.reverse (h : CanonicalOrder before key order objects) :
    CanonicalOrder (fun a b => before b a) key (fun given => (order given).reverse) objects where
  perm := (List.reverse_perm _).trans h.perm
  strict := List.pairwise_reverse.mpr h.strict
  eq_of_perm other hperm := congrArg List.reverse (h.eq_of_perm other hperm)

/-- Sorting by a key that tells distinct objects apart is canonical. -/
theorem canonicalOrder_sortByKey (hdistinct : objects.Nodup)
    (hkey : ∀ a ∈ objects, ∀ b ∈ objects, key a = key b → a = b) :
    CanonicalOrder SortKey.Before key (sortByKey key) objects where
  perm := List.mergeSort_perm objects _
  strict := by
    have hperm : (sortByKey key objects).Perm objects := List.mergeSort_perm objects _
    have hnodup : (sortByKey key objects).Nodup := hperm.nodup_iff.mpr hdistinct
    refine ((pairwise_sortByKey key objects).and hnodup).imp_of_mem fun ha hb ⟨hle, hne⟩ => ?_
    exact SortKey.before_of_le hle fun h => hne (hkey _ (hperm.mem_iff.mp ha) _ (hperm.mem_iff.mp hb) h)
  eq_of_perm other hperm := sortByKey_eq_of_perm hkey hperm

/-- So is sorting distinct objects by what they are, with ranks or without. -/
theorem canonicalOrder_ofResource (hdistinct : (objects.map Resource.identity).Nodup) (rank : Resource → Int) :
    CanonicalOrder SortKey.Before (fun r => .ofResource (rank r) r)
      (sortByKey fun r => .ofResource (rank r) r) objects :=
  canonicalOrder_sortByKey hdistinct.of_map fun _ ha _ hb h =>
    List.inj_on_of_nodup_map hdistinct ha hb (Resource.identity_eq_of_ofResource h)

end Canonical

/-- The orders of an accepted list are canonical: that of creation for every rank table and whatever is
known about scopes, that of deletion the other way round, and that of listings, in which all ranks are the
same. This is because objects with different identities have different keys, whatever their ranks. -/
theorem orders_canonical {objects : List Resource} (haccepted : checkDuplicates objects = .ok ()) :
    (∀ (table : RankTable) (scopes : Scopes),
      CanonicalOrder SortKey.Before (creationKey table scopes) (creationOrder table scopes) objects ∧
        CanonicalOrder (fun a b => b.Before a) (creationKey table scopes) (deletionOrder table scopes) objects) ∧
      CanonicalOrder SortKey.Before (.ofResource 0) alphabeticalOrder objects ∧
      ∀ (a b : Resource) (rank rank' : Int), a.identity ≠ b.identity →
        SortKey.ofResource rank a ≠ .ofResource rank' b := by
  have hdistinct := (checkDuplicates_iff objects).mp haccepted
  refine ⟨fun table scopes => ?_, ?_, ?_⟩
  · have hcreation : CanonicalOrder SortKey.Before (creationKey table scopes) (creationOrder table scopes) objects :=
      canonicalOrder_ofResource hdistinct fun r => table.rank r.gvk (scopes r.gvk)
    exact ⟨hcreation, hcreation.reverse⟩
  · exact canonicalOrder_ofResource hdistinct fun _ => 0
  · exact fun a b rank rank' hne h => hne (Resource.identity_eq_of_ofResource h)

/-- A namespace, a deployment in it and another of the same name in the empty namespace are created and
listed alike when they are given in another order, and the two deployments have different keys. -/
theorem orders_canonical_of_three :
    let object (apiVersion kind name : String) (scope : Fields) : Fields :=
      [("apiVersion", .string apiVersion), ("kind", .string kind),
        ("metadata", .object (("name", .string name) :: scope))]
    let team : Resource := ⟨object "v1" "Namespace" "team" [], by decide, by decide, by decide⟩
    let placed : Resource :=
      ⟨object "apps/v1" "Deployment" "app" [("namespace", .string "team")], by decide, by decide, by decide⟩
    let unplaced : Resource :=
      ⟨object "apps/v1" "Deployment" "app" [("namespace", .string "")], by decide, by decide, by decide⟩
    let scopes : Scopes := fun gvk => if gvk.kind = "Namespace" then some .cluster else none
    checkDuplicates [placed, team, unplaced] = .ok () ∧
      creationOrder .standard scopes [unplaced, placed, team] =
        creationOrder .standard scopes [placed, team, unplaced] ∧
      alphabeticalOrder [unplaced, placed, team] = alphabeticalOrder [placed, team, unplaced] ∧
      SortKey.ofResource 0 placed ≠ .ofResource 0 unplaced := by
  intro object team placed unplaced scopes
  have haccepted : checkDuplicates [placed, team, unplaced] = .ok () := (checkDuplicates_iff _).mpr (by decide)
  obtain ⟨hordered, hlisted, hkeys⟩ := orders_canonical haccepted
  have hperm : [unplaced, placed, team].Perm [placed, team, unplaced] :=
    (List.perm_append_singleton unplaced [placed, team]).symm
  exact ⟨haccepted, (hordered .standard scopes).1.eq_of_perm _ hperm, hlisted.eq_of_perm _ hperm,
    hkeys placed unplaced 0 0 (by decide)⟩

end Reconcile
