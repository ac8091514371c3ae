import Mathlib.Data.List.Nodup
import Reconcile.Order.Basic
import Reconcile.Proofs.Resource.Metadata

/-!
# The orders of objects

Bringing objects into the order in which they are created, deleted or listed neither loses nor repeats
one. Sort keys are in a linear order, and objects with different identities have different keys: the
namespace counts as it is written, and the API version with the kind says which kind is meant. So the
order of distinct objects does not depend on how they were given.
-/

namespace Reconcile

section Perm

variable (table : RankTable) (scopes : Scopes) (objects : List Resource)

/-- The order of creation leaves nothing out and adds nothing. -/
theorem creationOrder_perm : (creationOrder table scopes objects).Perm objects :=
  List.mergeSort_perm objects _

/-- Nor does that of deletion. -/
theorem deletionOrder_perm : (deletionOrder table scopes objects).Perm objects :=
  (List.reverse_perm _).trans (creationOrder_perm table scopes objects)

/-- Nor does that of listings. -/
theorem alphabeticalOrder_perm : (alphabeticalOrder objects).Perm objects := List.mergeSort_perm objects _

end Perm

namespace SortKey

variable {a b c : SortKey}

/-- The order of keys is the lexicographic order of their five parts. -/
theorem compare_eq_compareLex :
    compare = compareLex (compareOn rank) (compareLex (compareOn scope)
      (compareLex (compareOn kind) (compareLex (compareOn name) (compareOn apiVersion)))) := rfl

/-- The order of keys is transitive. -/
instance : Std.TransCmp compare := by
  rw [compare_eq_compareLex]
  infer_instance

/-- Only a key itself compares as equal to it. -/
theorem eq_of_compare_eq (h : a.compare b = .eq) : a = b := by
  simp only [compare, Ordering.then_eq_eq, Std.LawfulEqCmp.compare_eq_iff_eq] at h
  obtain ⟨hrank, hscope, hkind, hname, hversion⟩ := h
  obtain ⟨rank, scope, kind, name, apiVersion⟩ := a
  obtain ⟨rank', scope', kind', name', apiVersion'⟩ := b
  simp only at hrank hscope hkind hname hversion
  subst hrank hscope hkind hname hversion
  rfl

/-- What comes before something earlier comes earlier. -/
theorem le_trans (hab : a.le b = true) (hbc : b.le c = true) : a.le c = true :=
  Std.TransCmp.isLE_trans hab hbc

/-- Of two keys one comes first. -/
theorem le_total (a b : SortKey) : (a.le b || b.le a) = true := by
  have hswap : b.compare a = (a.compare b).swap := Std.OrientedCmp.eq_swap
  rw [le, le, hswap]
  cases a.compare b <;> rfl

/-- Keys that come before each other are one. -/
theorem eq_of_le_of_le (hab : a.le b = true) (hba : b.le a = true) : a = b :=
  eq_of_compare_eq (Std.OrientedCmp.isLE_antisymm hab hba)

end SortKey

/-- Objects with one key have one identity, whatever their ranks. -/
theorem Resource.identity_eq_of_ofResource {rank rank' : Int} {a b : Resource}
    (h : SortKey.ofResource rank a = .ofResource rank' b) : a.identity = b.identity := by
  simp only [SortKey.ofResource, SortKey.mk.injEq] at h
  obtain ⟨-, hscope, hkind, hname, hversion⟩ := h
  have hscope : a.scope? = b.scope? := by
    have ha := scope?_ne_empty a
    have hb := scope?_ne_empty b
    generalize a.scope? = own at *
    generalize b.scope? = other at *
    cases own <;> cases other <;> simp_all
  rw [identity, identity, gvk, gvk, hversion, hkind, hscope, hname]

section Sorted

variable {key : Resource → SortKey} {objects other : List Resource}

/-- What is sorted by a key is in the order of the key. -/
theorem pairwise_sortByKey (key : Resource → SortKey) (objects : List Resource) :
    (sortByKey key objects).Pairwise fun a b => (key a).le (key b) = true :=
  @List.pairwise_mergeSort _ (fun a b => (key a).le (key b)) (fun _ _ _ => SortKey.le_trans)
    (fun a b => SortKey.le_total (key a) (key b)) objects

/-- Objects with different keys are sorted in one way only. -/
theorem sortByKey_eq_of_perm (hkey : ∀ a ∈ objects, ∀ b ∈ objects, key a = key b → a = b)
    (hperm : other.Perm objects) : sortByKey key other = sortByKey key objects := by
  have hsorted := List.mergeSort_perm objects fun a b => (key a).le (key b)
  have hsame := (List.mergeSort_perm other fun a b => (key a).le (key b)).trans hperm
  refine List.Perm.eq_of_pairwise (fun a b ha hb hab hba => ?_) (pairwise_sortByKey key other)
    (pairwise_sortByKey key objects) (hsame.trans hsorted.symm)
  exact hkey a (hsame.mem_iff.mp ha) b (hsorted.mem_iff.mp hb) (SortKey.eq_of_le_of_le hab hba)

/-- Two objects that are given the wrong way round are exchanged. -/
theorem sortByKey_pair {a b : Resource} (hle : (key b).le (key a) = true) (hne : key a ≠ key b) :
    sortByKey key [a, b] = [b, a] := by
  have hkey : ∀ x ∈ [b, a], ∀ y ∈ [b, a], key x = key y → x = y := by
    simp [hne, hne.symm]
  rw [sortByKey_eq_of_perm hkey (List.Perm.swap b a [])]
  exact List.mergeSort_of_pairwise (List.pairwise_pair.mpr hle)

/-- The order of listings does not depend on how distinct objects were given. -/
theorem alphabeticalOrder_eq_of_perm (hdistinct : (objects.map Resource.identity).Nodup)
    (hperm : other.Perm objects) : alphabeticalOrder other = alphabeticalOrder objects :=
  sortByKey_eq_of_perm (fun _ ha _ hb h =>
    List.inj_on_of_nodup_map hdistinct ha hb (Resource.identity_eq_of_ofResource h)) hperm

end Sorted

end Reconcile
