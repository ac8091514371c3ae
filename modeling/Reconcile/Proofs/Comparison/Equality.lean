import Mathlib.Data.List.Perm.Subperm
import Mathlib.Data.List.Nodup
import Reconcile.Comparison.Equality
import Reconcile.Proofs.Json.Fields

/-!
# The comparison of values

Whether two values are the same is decided item by item and member by member. For objects it is enough to
look under every key: `Json.sameValue_object_iff` says that they are the same exactly when both have the
same under it or neither has anything. So the comparison has no preferred side, although it counts the
members and looks up those of one side only.
-/

namespace Reconcile

namespace Fields

variable {fields : Fields}

/-- No key occurs twice. -/
theorem Rising.nodup_keys (rising : fields.Rising) : fields.keys.Nodup :=
  List.pairwise_map.mpr (rising.imp fun hlt => String.ne_of_lt hlt)

/-- There are as many keys as members. -/
@[simp] theorem length_keys (fields : Fields) : fields.keys.length = fields.length := List.length_map _

end Fields

namespace Json

/-- Two values are the same, if there are any. -/
abbrev SameAt : Option Json → Option Json → Prop := Option.Rel fun v w => v.sameValue w = true

/-- Two values under a key are the same when their values are. -/
@[simp] theorem sameAt_some {v w : Json} : SameAt (some v) (some w) ↔ v.sameValue w = true := Option.rel_some_some

/-- A missing value is the same as a missing one only. -/
@[simp] theorem sameAt_none_left {b : Option Json} : SameAt none b ↔ b = none := by
  cases b <;> simp

/-- So it is from the other side. -/
@[simp] theorem sameAt_none_right {a : Option Json} : SameAt a none ↔ a = none := by
  cases a <;> simp

/-- Lists of the same values are the same. -/
theorem sameItems_refl {items : List Json} (h : ∀ v ∈ items, v.sameValue v = true) :
    sameItems items items = true := by
  induction items with
  | nil => rfl
  | cons v rest ih =>
    rw [sameItems, h v List.mem_cons_self, Bool.true_and]
    exact ih fun w hw => h w (List.mem_cons_of_mem _ hw)

/-- Members are the same when all of them are found with the same value. -/
theorem sameFields_iff {members other : Fields} : sameFields members other = true ↔
    ∀ m ∈ members, ∃ w, other.get? m.1 = some w ∧ m.2.sameValue w = true := by
  induction members with
  | nil => simp [sameFields]
  | cons m rest ih =>
    rw [sameFields, Bool.and_eq_true, ih, List.forall_mem_cons]
    refine and_congr_left fun _ => ?_
    cases other.get? m.1 <;> simp

/-- Every value is the same as itself. -/
theorem sameValue_self {v : Json} (hwf : v.WellFormed) : v.sameValue v = true := by
  induction v with
  | null => rfl
  | bool b => simp [sameValue]
  | number n => exact n.sameValue_refl
  | string s => simp [sameValue]
  | array items ih =>
    cases hwf with
    | array _ each => exact sameItems_refl fun v hv => ih v hv (each v hv)
  | object members ih =>
    obtain ⟨rising, each⟩ := wellFormed_object_iff.mp hwf
    rw [sameValue, beq_self_eq_true, Bool.true_and]
    refine sameFields_iff.mpr fun m hm => ?_
    have hfound : members.get? m.1 = some m.2 := Fields.get?_of_mem rising hm
    exact ⟨m.2, hfound, ih m hm (each m.1 m.2 hfound)⟩

section Objects

variable {a b : Fields}

/-- As many members, each of them found on the other side, leave none over there. -/
theorem has_of_sameFields (ha : a.Rising) (hlength : a.length = b.length) (h : sameFields a b = true)
    {key : String} (hkey : b.has key = true) : a.has key = true := by
  have hsubset : a.keys ⊆ b.keys := by
    intro k hk
    obtain ⟨m, hm, rfl⟩ := List.mem_map.mp hk
    obtain ⟨w, hw, -⟩ := sameFields_iff.mp h m hm
    exact Fields.mem_keys_iff.mpr (Fields.has_iff.mpr ⟨w, hw⟩)
  have hperm : a.keys.Perm b.keys :=
    (List.subperm_of_subset ha.nodup_keys hsubset).perm_of_length_le (by simp [hlength])
  exact Fields.mem_keys_iff.mp (hperm.mem_iff.mpr (Fields.mem_keys_iff.mpr hkey))

/-- Objects are the same when they are under every key. -/
theorem sameValue_object_iff (ha : a.Rising) (hb : b.Rising) :
    sameValue (.object a) (.object b) = true ↔ ∀ key, SameAt (a.get? key) (b.get? key) := by
  rw [sameValue, Bool.and_eq_true, beq_iff_eq]
  constructor
  · rintro ⟨hlength, hsame⟩ key
    cases hv : a.get? key with
    | none =>
      have hnone : b.get? key = none := by
        rw [← Fields.has_eq_false_iff, ← Bool.not_eq_true]
        exact fun hhas => by simpa [Fields.has, hv] using has_of_sameFields ha hlength hsame hhas
      rw [hnone]
      exact .none
    | some v =>
      obtain ⟨w, hw, hvw⟩ := sameFields_iff.mp hsame _ (Fields.mem_of_get? hv)
      rw [hw]
      exact .some hvw
  · intro h
    have hkeys (key : String) : key ∈ a.keys ↔ key ∈ b.keys := by
      have hsame := h key
      rw [Fields.mem_keys_iff, Fields.mem_keys_iff, Fields.has, Fields.has]
      cases hv : a.get? key <;> cases hw : b.get? key <;> simp_all
    have hperm := (List.perm_ext_iff_of_nodup ha.nodup_keys hb.nodup_keys).mpr hkeys
    refine ⟨by simpa using hperm.length_eq, sameFields_iff.mpr fun m hm => ?_⟩
    have hsame := h m.1
    rw [Fields.get?_of_mem ha hm] at hsame
    cases hw : b.get? m.1 with
    | none => simp [hw] at hsame
    | some w => exact ⟨w, rfl, sameAt_some.mp (hw ▸ hsame)⟩

end Objects

/-- Lists may be compared from either side when their items may. -/
theorem sameItems_comm {a b : List Json} (h : ∀ v ∈ a, ∀ w ∈ b, v.sameValue w = w.sameValue v) :
    sameItems a b = sameItems b a := by
  induction a generalizing b with
  | nil => cases b <;> rfl
  | cons v rest ih =>
    cases b with
    | nil => rfl
    | cons w others =>
      rw [sameItems, sameItems, h v List.mem_cons_self w List.mem_cons_self,
        ih fun x hx y hy => h x (List.mem_cons_of_mem _ hx) y (List.mem_cons_of_mem _ hy)]

/-- The comparison has no preferred side. -/
theorem sameValue_comm {a b : Json} (ha : a.WellFormed) (hb : b.WellFormed) :
    a.sameValue b = b.sameValue a := by
  induction a generalizing b with
  | number m =>
    cases b with
    | number n => exact m.sameValue_comm n
    | _ => rfl
  | array items ih =>
    cases b with
    | array others =>
      cases ha with
      | array _ each =>
        cases hb with
        | array _ eachOther => exact sameItems_comm fun v hv w hw => ih v hv (each v hv) (eachOther w hw)
    | _ => rfl
  | object members ih =>
    cases b with
    | object others =>
      obtain ⟨rising, each⟩ := wellFormed_object_iff.mp ha
      obtain ⟨risingOther, eachOther⟩ := wellFormed_object_iff.mp hb
      rw [Bool.eq_iff_iff, sameValue_object_iff rising risingOther, sameValue_object_iff risingOther rising]
      refine forall_congr' fun key => ?_
      cases hv : members.get? key with
      | none => simp
      | some v =>
        cases hw : Fields.get? key others with
        | none => simp
        | some w => simp [ih _ (Fields.mem_of_get? hv) (each key v hv) (eachOther key w hw)]
    | _ => rfl
  | _ => cases b <;> first | rfl | exact BEq.comm

end Json

end Reconcile
