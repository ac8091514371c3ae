import Mathlib.Algebra.BigOperators.Group.Finset.Basic
import Mathlib.Algebra.Order.BigOperators.Group.Finset
import Reconcile.Comparison.Summary
import Reconcile.Proofs.Comparison.Equality

/-!
# What a summary counts

A summary goes through the members of one side and counts the keys of the other that were left out. It is
the sum over all keys of either side of what the two have under that key, `Json.summary_object`, so it
counts nothing exactly when the two values are the same, and from the other side additions and removals
change places.
-/

namespace Reconcile

namespace Summary

attribute [ext] Summary

/-- The summary of nothing counts nothing. -/
instance : Zero Summary := ⟨zero⟩

/-- Summaries add up in any order. -/
instance : AddCommMonoid Summary where
  add_assoc a b c := Summary.ext (Nat.add_assoc ..) (Nat.add_assoc ..) (Nat.add_assoc ..)
  zero_add a := Summary.ext (Nat.zero_add _) (Nat.zero_add _) (Nat.zero_add _)
  add_zero _ := rfl
  add_comm a b := Summary.ext (Nat.add_comm ..) (Nat.add_comm ..) (Nat.add_comm ..)
  nsmul := nsmulRec

/-- How much is counted in all. -/
def total : Summary →+ Nat where
  toFun s := s.adds + s.updates + s.removes
  map_zero' := rfl
  map_add' a b := by
    show (a.adds + b.adds) + (a.updates + b.updates) + (a.removes + b.removes) = _
    omega

/-- The same seen from the other side. -/
def swap : Summary →+ Summary where
  toFun s := ⟨s.removes, s.updates, s.adds⟩
  map_zero' := rfl
  map_add' _ _ := rfl

/-- A summary counts whatever was added, updated or removed. -/
theorem total_mk (adds updates removes : Nat) : total ⟨adds, updates, removes⟩ = adds + updates + removes := rfl

/-- Only the empty summary counts nothing. -/
theorem total_eq_zero_iff {s : Summary} : total s = 0 ↔ s = .zero := by
  obtain ⟨adds, updates, removes⟩ := s
  rw [total_mk, zero, Summary.mk.injEq]
  omega

end Summary

namespace Json

open Summary (total swap)

/-- What counts under one key. -/
def memberSummary : Option Json → Option Json → Summary
  | none, none => 0
  | some _, none => ⟨1, 0, 0⟩
  | none, some _ => ⟨0, 0, 1⟩
  | some v, some w => if v.sameValue w then 0 else v.summary w

section Objects

variable {a b : Fields}

/-- The summary of members adds up those of the single ones. -/
theorem summaryFields_eq_sum (a b : Fields) :
    summaryFields a b = (a.map fun m => memberSummary (some m.2) (b.get? m.1)).sum := by
  induction a with
  | nil => rfl
  | cons m rest ih =>
    rw [summaryFields, List.map_cons, List.sum_cons, ih]
    cases b.get? m.1 <;> rfl

/-- Keys that only the other side has count as removals. -/
theorem sum_eq_of_removed {keys : List String} {f : String → Summary} (h : ∀ key ∈ keys, f key = ⟨0, 0, 1⟩) :
    (keys.map f).sum = ⟨0, 0, keys.length⟩ := by
  induction keys with
  | nil => rfl
  | cons key rest ih =>
    rw [List.map_cons, List.sum_cons, h key List.mem_cons_self, ih fun k hk => h k (List.mem_cons_of_mem _ hk)]
    exact Summary.ext rfl rfl (Nat.add_comm ..)

/-- A summary of objects counts under every key that one of them has. -/
theorem summary_object (ha : a.Rising) (hb : b.Rising) :
    (Json.object a).summary (.object b) =
      ∑ key ∈ a.keys.toFinset ∪ b.keys.toFinset, memberSummary (a.get? key) (b.get? key) := by
  let left := b.keys.filter fun key => !a.has key
  have hown : summaryFields a b = (a.keys.map fun key => memberSummary (a.get? key) (b.get? key)).sum := by
    rw [summaryFields_eq_sum, Fields.keys, List.map_map]
    refine congrArg List.sum (List.map_congr_left fun m hm => ?_)
    rw [Function.comp_apply, Fields.get?_of_mem ha hm]
  have hleft : (left.map fun key => memberSummary (a.get? key) (b.get? key)).sum = ⟨0, 0, left.length⟩ := by
    refine sum_eq_of_removed fun key hkey => ?_
    obtain ⟨hmem, hnot⟩ := List.mem_filter.mp hkey
    obtain ⟨w, hw⟩ := Fields.has_iff.mp (Fields.mem_keys_iff.mp hmem)
    rw [Fields.has_eq_false_iff.mp (by simpa using hnot), hw]
    rfl
  have hnodup : (a.keys ++ left).Nodup := by
    refine List.nodup_append.mpr ⟨ha.nodup_keys, hb.nodup_keys.filter _, fun key hkey other hother heq => ?_⟩
    have hnot := (List.mem_filter.mp hother).2
    rw [← heq, Fields.mem_keys_iff.mp hkey] at hnot
    exact absurd hnot (by decide)
  have hkeys : (a.keys ++ left).toFinset = a.keys.toFinset ∪ b.keys.toFinset := by
    ext key
    by_cases hkey : a.has key = true <;> simp [left, Fields.mem_keys_iff, hkey]
  rw [summary, hown, ← hkeys, List.sum_toFinset _ hnodup, List.map_append, List.sum_append, hleft]

/-- It counts nothing when nothing counts under any key. -/
theorem total_summary_object (ha : a.Rising) (hb : b.Rising) :
    total ((Json.object a).summary (.object b)) = 0 ↔
      ∀ key, total (memberSummary (a.get? key) (b.get? key)) = 0 := by
  rw [summary_object ha hb, map_sum, Finset.sum_eq_zero_iff]
  refine forall_congr' fun key => ⟨fun h => ?_, fun h _ => h⟩
  by_cases hkey : key ∈ a.keys.toFinset ∪ b.keys.toFinset
  · exact h hkey
  · simp only [Finset.mem_union, List.mem_toFinset, Fields.mem_keys_iff, not_or, Bool.not_eq_true,
      Fields.has_eq_false_iff] at hkey
    rw [hkey.1, hkey.2]
    rfl

end Objects

section Members

variable {x y : Option Json}

/-- Nothing counts under a key exactly when it is the same on both sides. -/
theorem total_memberSummary_eq_zero_iff
    (h : ∀ v w, x = some v → y = some w → (total (v.summary w) = 0 ↔ v.sameValue w = true)) :
    total (memberSummary x y) = 0 ↔ SameAt x y := by
  cases x with
  | none =>
    cases y with
    | none => exact iff_of_true (map_zero total) .none
    | some w => simp [memberSummary, Summary.total_mk]
  | some v =>
    cases y with
    | none => simp [memberSummary, Summary.total_mk]
    | some w =>
      rw [memberSummary, sameAt_some]
      split
      next hsame => exact iff_of_true (map_zero total) hsame
      next hsame => exact h v w rfl rfl

/-- What counts under a key is the same from both sides, with additions and removals exchanged. -/
theorem memberSummary_comm
    (h : ∀ v w, x = some v → y = some w → v.sameValue w = w.sameValue v ∧ w.summary v = swap (v.summary w)) :
    memberSummary y x = swap (memberSummary x y) := by
  cases x with
  | none => cases y <;> rfl
  | some v =>
    cases y with
    | none => rfl
    | some w =>
      obtain ⟨hsame, hswap⟩ := h v w rfl rfl
      rw [memberSummary, memberSummary, ← hsame]
      split
      next => rfl
      next => exact hswap

end Members

section Items

variable {a b : List Json}

/-- Lists are the same when they are equally long and differ in no place. -/
theorem sameItems_iff_changedItems : sameItems a b = true ↔ a.length = b.length ∧ changedItems a b = 0 := by
  induction a generalizing b with
  | nil => cases b <;> simp [sameItems, changedItems]
  | cons v rest ih =>
    cases b with
    | nil => simp [sameItems]
    | cons w others =>
      simp only [changedItems] at ih ⊢
      rw [sameItems, Bool.and_eq_true, ih, List.zip_cons_cons, List.countP_cons]
      cases v.sameValue w <;> simp

/-- As many items are changed from one side as from the other. -/
theorem changedItems_comm (h : ∀ v ∈ a, ∀ w ∈ b, v.sameValue w = w.sameValue v) :
    changedItems a b = changedItems b a := by
  rw [changedItems, changedItems, ← List.zip_swap, List.countP_map]
  refine List.countP_congr fun pair hpair => ?_
  obtain ⟨hleft, hright⟩ := List.of_mem_zip hpair
  simp [h _ hright _ hleft]

end Items

section Single

variable {a b : Json} (hobject : (a.isObject && b.isObject) = false) (harray : (a.isArray && b.isArray) = false)

include hobject harray

/-- What is not compared part by part counts as one change, or as none. -/
theorem summary_of_single : a.summary b = if a.sameValue b then .zero else ⟨0, 1, 0⟩ := by
  cases a <;> cases b <;> first | rfl | simp [isObject, isArray] at hobject harray

/-- Of two values that are compared as a whole the summary counts nothing exactly when they are the
same. -/
theorem total_summary_of_single : total (a.summary b) = 0 ↔ a.sameValue b = true := by
  rw [summary_of_single hobject harray]
  split
  next hsame => exact iff_of_true rfl hsame
  next hsame => exact iff_of_false Nat.one_ne_zero hsame

/-- From the other side such a summary exchanges additions and removals. -/
theorem summary_comm_of_single (hsame : a.sameValue b = b.sameValue a) : b.summary a = swap (a.summary b) := by
  rw [summary_of_single hobject harray, hsame,
    summary_of_single (by rwa [Bool.and_comm]) (by rwa [Bool.and_comm])]
  split <;> rfl

end Single

/-- A summary counts nothing exactly when the two values are the same. -/
theorem total_summary_eq_zero_iff {a b : Json} (ha : a.WellFormed) (hb : b.WellFormed) :
    total (a.summary b) = 0 ↔ a.sameValue b = true := by
  induction a generalizing b with
  | array items ih =>
    cases b with
    | array others =>
      rw [sameValue, sameItems_iff_changedItems, summary, Summary.total_mk]
      omega
    | _ => exact total_summary_of_single rfl rfl
  | object members ih =>
    cases b with
    | object others =>
      obtain ⟨rising, each⟩ := wellFormed_object_iff.mp ha
      obtain ⟨risingOther, eachOther⟩ := wellFormed_object_iff.mp hb
      have hmember (key : String) : total (memberSummary (members.get? key) (Fields.get? key others)) = 0 ↔
          SameAt (members.get? key) (Fields.get? key others) :=
        total_memberSummary_eq_zero_iff fun v w hv hw =>
          ih _ (Fields.mem_of_get? hv) (each key v hv) (eachOther key w hw)
      rw [total_summary_object rising risingOther, sameValue_object_iff rising risingOther]
      exact forall_congr' hmember
    | _ => exact total_summary_of_single rfl rfl
  | _ => exact total_summary_of_single rfl rfl

/-- From the other side a summary counts the same, with additions and removals exchanged. -/
theorem summary_comm {a b : Json} (ha : a.WellFormed) (hb : b.WellFormed) : b.summary a = swap (a.summary b) := by
  induction a generalizing b with
  | array items ih =>
    cases b with
    | array others =>
      cases ha with
      | array _ each =>
        cases hb with
        | array _ eachOther =>
          rw [summary, summary, changedItems_comm fun v hv w hw => sameValue_comm (eachOther v hv) (each w hw)]
          rfl
    | _ => exact summary_comm_of_single rfl rfl (sameValue_comm ha hb)
  | object members ih =>
    cases b with
    | object others =>
      obtain ⟨rising, each⟩ := wellFormed_object_iff.mp ha
      obtain ⟨risingOther, eachOther⟩ := wellFormed_object_iff.mp hb
      rw [summary_object risingOther rising, summary_object rising risingOther, map_sum, Finset.union_comm]
      refine Finset.sum_congr rfl fun key _ => memberSummary_comm fun v w hv hw => ?_
      exact ⟨sameValue_comm (each key v hv) (eachOther key w hw),
        ih _ (Fields.mem_of_get? hv) (each key v hv) (eachOther key w hw)⟩
    | _ => exact summary_comm_of_single rfl rfl (sameValue_comm ha hb)
  | _ => exact summary_comm_of_single rfl rfl (sameValue_comm ha hb)

end Json

end Reconcile
