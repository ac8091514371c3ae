import Reconcile.Proofs.Json.Fields

/-!
# Depth of nesting

A value that is put into an object nests it no deeper than the value itself does, and taking a member
out never nests it deeper.
-/

namespace Reconcile

namespace Json

/-- A text has no levels. -/
@[simp] theorem depth_string (s : String) : depth (.string s) = 0 := by simp [depth]

/-- An object has one level more than its members. -/
theorem depth_object (members : Fields) : depth (.object members) = fieldsDepth members + 1 := by
  rw [depth]

/-- Members become no deeper than what is put among them. -/
theorem fieldsDepth_insert_le (k : String) (v : Json) (fields : Fields) :
    fieldsDepth (fields.insert k v) ≤ max v.depth (fieldsDepth fields) := by
  induction fields with
  | nil => simp [Fields.insert, fieldsDepth]
  | cons member rest ih =>
    obtain ⟨key, w⟩ := member
    rw [Fields.insert]
    split
    · simp only [fieldsDepth]
      omega
    · split <;> simp only [fieldsDepth] <;> omega

/-- They become no deeper when one is taken out. -/
theorem fieldsDepth_erase_le (k : String) (fields : Fields) : fieldsDepth (fields.erase k) ≤ fieldsDepth fields := by
  induction fields with
  | nil => exact Nat.le_refl _
  | cons member rest ih =>
    obtain ⟨key, w⟩ := member
    rw [Fields.erase]
    split <;> simp only [fieldsDepth] <;> omega

/-- An item nests no deeper than the list that it is in. -/
theorem depth_le_itemsDepth {items : List Json} {v : Json} (h : v ∈ items) : v.depth ≤ itemsDepth items := by
  induction items with
  | nil => simp at h
  | cons w rest ih =>
    rw [itemsDepth]
    rcases List.mem_cons.mp h with rfl | h
    · exact Nat.le_max_left _ _
    · exact Nat.le_trans (ih h) (Nat.le_max_right _ _)

/-- A member nests no deeper than the list that it is in. -/
theorem depth_le_fieldsDepth {members : List (String × Json)} {m : String × Json} (h : m ∈ members) :
    m.2.depth ≤ fieldsDepth members := by
  induction members with
  | nil => simp at h
  | cons other rest ih =>
    rw [fieldsDepth]
    rcases List.mem_cons.mp h with rfl | h
    · exact Nat.le_max_left _ _
    · exact Nat.le_trans (ih h) (Nat.le_max_right _ _)

/-- A member nests no deeper than the object that has it. -/
theorem depth_le_of_get? {key : String} {v : Json} {fields : Fields} (h : fields.get? key = some v) :
    v.depth ≤ fieldsDepth fields := depth_le_fieldsDepth (Fields.mem_of_get? h)

end Json

end Reconcile
