import Reconcile.Json.Basic

/-!
# Members in rising order

The members of an object rise strictly by key. Two such lists that answer every look-up alike are
equal, so an equation between objects is proved key by key. Inserting and erasing keep the order,
and `Json.wellFormed_object_iff` says through look-ups what makes an object well formed.
-/

namespace Reconcile

namespace Fields

/-- The keys rise strictly. -/
def Rising (fields : Fields) : Prop := fields.Pairwise fun a b => a.1 < b.1

/-- Members are in order when the first key comes before all others and these are in order. -/
theorem rising_cons {k : String} {v : Json} {rest : Fields} :
    Rising ((k, v) :: rest) ↔ (∀ m ∈ rest, k < m.1) ∧ Rising rest := List.pairwise_cons

/-- Whether members are in order can be decided. -/
instance (fields : Fields) : Decidable fields.Rising :=
  inferInstanceAs (Decidable (fields.Pairwise fun a b => a.1 < b.1))

/-- What a look-up finds is a member. -/
theorem mem_of_get? {key : String} {v : Json} {fields : Fields} (h : fields.get? key = some v) :
    (key, v) ∈ fields := by
  induction fields with
  | nil => simp at h
  | cons member rest ih =>
    obtain ⟨k, w⟩ := member
    rw [get?_cons] at h
    by_cases hk : k = key
    · rw [if_pos hk] at h
      obtain rfl : w = v := by simpa using h
      exact hk ▸ List.mem_cons_self
    · rw [if_neg hk] at h
      exact List.mem_cons_of_mem _ (ih h)

/-- A key that a list of members has none of is not found. -/
theorem get?_eq_none {key : String} {fields : Fields} (h : ∀ m ∈ fields, m.1 ≠ key) :
    fields.get? key = none := by
  induction fields with
  | nil => rfl
  | cons member rest ih =>
    obtain ⟨k, w⟩ := member
    rw [get?_cons, if_neg (h _ List.mem_cons_self)]
    exact ih fun m hm => h m (List.mem_cons_of_mem _ hm)

/-- Where the keys rise, every member is found under its key. -/
theorem get?_of_mem {key : String} {v : Json} {fields : Fields} (rising : fields.Rising)
    (h : (key, v) ∈ fields) : fields.get? key = some v := by
  induction fields with
  | nil => simp at h
  | cons member rest ih =>
    obtain ⟨k, w⟩ := member
    obtain ⟨hlt, hrest⟩ := rising_cons.mp rising
    rw [get?_cons]
    rcases List.mem_cons.mp h with heq | hmem
    · obtain ⟨rfl, rfl⟩ := Prod.mk.inj heq
      exact if_pos rfl
    · have hne : k ≠ key := fun hk => String.lt_irrefl _ (hk ▸ hlt _ hmem)
      rw [if_neg hne, ih hrest hmem]

/-- The key of the first member comes before all that are found behind it. -/
theorem get?_eq_none_of_rising {k : String} {v : Json} {rest : Fields}
    (rising : Rising ((k, v) :: rest)) : rest.get? k = none :=
  get?_eq_none fun _ hm hk =>
    String.lt_irrefl _ (hk ▸ (rising_cons.mp rising).1 _ hm)

/-- A key is among the keys exactly when it has a value. -/
theorem mem_keys_iff {key : String} {fields : Fields} : key ∈ fields.keys ↔ fields.has key = true := by
  induction fields with
  | nil => simp [keys, has]
  | cons member rest ih =>
    obtain ⟨k, v⟩ := member
    simp only [keys, has, get?_cons, List.map_cons, List.mem_cons] at ih ⊢
    rw [ih]
    by_cases hk : k = key
    · simp [hk]
    · simp [hk, Ne.symm hk]

/-- There is a member under a key when something is found there. -/
theorem has_iff {key : String} {fields : Fields} :
    fields.has key = true ↔ ∃ v, fields.get? key = some v := Option.isSome_iff_exists

/-- There is none when nothing is found. -/
theorem has_eq_false_iff {key : String} {fields : Fields} :
    fields.has key = false ↔ fields.get? key = none := by
  simp [has]

/-- Two lists of members in rising order are equal when every look-up in them is. -/
theorem Rising.ext {a b : Fields} (ha : a.Rising) (hb : b.Rising)
    (h : ∀ key, a.get? key = b.get? key) : a = b := by
  induction a generalizing b with
  | nil =>
    cases b with
    | nil => rfl
    | cons member rest =>
      have hfirst := h member.1
      rw [get?_cons, if_pos rfl] at hfirst
      simp at hfirst
  | cons member rest ih =>
    obtain ⟨k, v⟩ := member
    have hk : b.get? k = some v := by rw [← h k, get?_cons, if_pos rfl]
    cases b with
    | nil => simp at hk
    | cons other others =>
      obtain ⟨l, w⟩ := other
      obtain ⟨hklt, hrest⟩ := rising_cons.mp ha
      obtain ⟨hllt, hothers⟩ := rising_cons.mp hb
      -- were the first keys different, each would come before the other
      have hkl : k = l := by
        by_cases hkl : k = l
        · exact hkl
        · have hl : Fields.get? l rest = some w := by
            have := h l
            rwa [get?_cons, if_neg hkl, get?_cons, if_pos rfl] at this
          rw [get?_cons, if_neg (Ne.symm hkl)] at hk
          exact absurd (String.lt_trans (hklt _ (mem_of_get? hl)) (hllt _ (mem_of_get? hk)))
            (String.lt_irrefl _)
      subst hkl
      rw [get?_cons, if_pos rfl] at hk
      obtain rfl : w = v := by simpa using hk
      have htail : ∀ key, Fields.get? key rest = Fields.get? key others := by
        intro key
        by_cases hkey : k = key
        · subst hkey
          rw [get?_eq_none_of_rising ha, get?_eq_none_of_rising hb]
        · simpa only [get?_cons, if_neg hkey] using h key
      rw [ih hrest hothers htail]

/-- Members with some of the keys of others, in their order, rise as these do. -/
theorem Rising.of_keys {a b : Fields} (rising : b.Rising) (h : a.keys.Sublist b.keys) : a.Rising :=
  List.pairwise_map.mp ((List.pairwise_map.mpr rising).sublist h)

/-- The keys after an insertion are the old ones and the new one. -/
theorem mem_insert {k : String} {v : Json} {m : String × Json} {fields : Fields}
    (h : m ∈ fields.insert k v) : m = (k, v) ∨ m ∈ fields := by
  induction fields with
  | nil => exact .inl (by simpa [insert] using h)
  | cons member rest ih =>
    obtain ⟨l, w⟩ := member
    rw [insert] at h
    split at h
    · exact (List.mem_cons.mp h).imp_right (List.mem_cons_of_mem _)
    · split at h
      · exact List.mem_cons.mp h
      · rcases List.mem_cons.mp h with rfl | h
        · exact .inr List.mem_cons_self
        · exact (ih h).imp_right (List.mem_cons_of_mem _)

/-- Inserting keeps the keys rising. -/
theorem Rising.insert {fields : Fields} (rising : fields.Rising) (k : String) (v : Json) :
    (fields.insert k v).Rising := by
  induction fields with
  | nil => simp [Rising, Fields.insert]
  | cons member rest ih =>
    obtain ⟨l, w⟩ := member
    obtain ⟨hlt, hrest⟩ := rising_cons.mp rising
    rw [Fields.insert]
    split
    next h => subst h; exact rising_cons.mpr ⟨hlt, hrest⟩
    next h =>
      split
      next hkl =>
        refine rising_cons.mpr ⟨fun m hm => ?_, rising⟩
        rcases List.mem_cons.mp hm with rfl | hm
        · exact hkl
        · exact String.lt_trans hkl (hlt m hm)
      next hkl =>
        have hlk : l < k := by
          rcases String.le_total k l with hle | hle
          · exact absurd (Std.lt_of_le_of_ne hle (Ne.symm h)) hkl
          · exact Std.lt_of_le_of_ne hle h
        refine rising_cons.mpr ⟨fun m hm => ?_, ih hrest⟩
        rcases mem_insert hm with rfl | hm
        · exact hlk
        · exact hlt m hm

/-- A value that is put where it stands changes nothing. -/
theorem Rising.insert_of_get? {fields : Fields} (rising : fields.Rising) {key : String} {v : Json}
    (h : fields.get? key = some v) : fields.insert key v = fields := by
  refine (rising.insert key v).ext rising fun other => ?_
  rw [get?_insert]
  split
  next hother => exact hother ▸ h.symm
  next => rfl

/-- Erasing leaves the other members in their order. -/
theorem erase_sublist (k : String) (fields : Fields) : (fields.erase k).Sublist fields := by
  induction fields with
  | nil => exact .slnil
  | cons member rest ih =>
    obtain ⟨l, w⟩ := member
    rw [erase]
    split
    · exact ih.cons _
    · exact ih.cons_cons _

/-- Erasing keeps the keys rising. -/
theorem Rising.erase {fields : Fields} (rising : fields.Rising) (k : String) :
    (fields.erase k).Rising := List.Pairwise.sublist (erase_sublist k fields) rising

end Fields

namespace Json

/-- Only null is null. -/
theorem isNull_iff {v : Json} : v.isNull = true ↔ v = .null := by cases v <;> simp [isNull]

/-- Induction over values: what holds of an array or an object may use that it holds of the values
in it. -/
@[elab_as_elim, induction_eliminator]
theorem induction {P : Json → Prop} (null : P .null) (bool : ∀ b, P (.bool b))
    (number : ∀ n, P (.number n)) (string : ∀ s, P (.string s))
    (array : ∀ items, (∀ v ∈ items, P v) → P (.array items))
    (object : ∀ members : Fields, (∀ m ∈ members, P m.2) → P (.object members)) : ∀ v, P v
  | .null => null
  | .bool b => bool b
  | .number n => number n
  | .string s => string s
  | .array items =>
    array items fun v _ => induction null bool number string array object v
  | .object members =>
    object members fun m _ => induction null bool number string array object m.2
decreasing_by
  · have := List.sizeOf_lt_of_mem ‹v ∈ items›
    simp only [Json.array.sizeOf_spec]
    omega
  · have := List.sizeOf_lt_of_mem ‹m ∈ members›
    have : sizeOf m.2 < sizeOf m := by cases m; simp only [Prod.mk.sizeOf_spec]; omega
    simp only [Json.object.sizeOf_spec]
    omega

/-- An object is well formed when its keys rise and every value in it is well formed. -/
theorem wellFormed_object_iff {members : Fields} :
    WellFormed (.object members) ↔
      members.Rising ∧ ∀ key v, members.get? key = some v → WellFormed v := by
  constructor
  · intro h
    cases h with
    | object _ rising each => exact ⟨rising, fun key v h => each _ (Fields.mem_of_get? h)⟩
  · rintro ⟨rising, each⟩
    exact .object members rising fun m hm => each m.1 m.2 (Fields.get?_of_mem rising hm)

mutual

/-- Whether a value is well formed. -/
def isWellFormed : Json → Bool
  | .array items => itemsWellFormed items
  | .object members => decide (Fields.Rising members) && fieldsWellFormed members
  | _ => true

/-- Whether all items are well formed. -/
def itemsWellFormed : List Json → Bool
  | [] => true
  | v :: rest => isWellFormed v && itemsWellFormed rest

/-- Whether the values of all members are well formed. -/
def fieldsWellFormed : List (String × Json) → Bool
  | [] => true
  | (_, v) :: rest => isWellFormed v && fieldsWellFormed rest

end

/-- The check of items asks for each of them to be well formed. -/
theorem itemsWellFormed_iff (items : List Json) :
    itemsWellFormed items = true ↔ ∀ v ∈ items, v.isWellFormed = true := by
  induction items with
  | nil => simp [itemsWellFormed]
  | cons v rest ih => simp [itemsWellFormed, ih]

/-- The check of members asks for each of them to be well formed. -/
theorem fieldsWellFormed_iff (members : Fields) :
    fieldsWellFormed members = true ↔ ∀ m ∈ members, m.2.isWellFormed = true := by
  induction members with
  | nil => simp [fieldsWellFormed]
  | cons m rest ih => simp [fieldsWellFormed, ih]

/-- The check of a value decides whether it is well formed. -/
theorem isWellFormed_iff (v : Json) : v.isWellFormed = true ↔ v.WellFormed := by
  induction v with
  | null => exact ⟨fun _ => .null, fun _ => rfl⟩
  | bool b => exact ⟨fun _ => .bool b, fun _ => rfl⟩
  | number n => exact ⟨fun _ => .number n, fun _ => rfl⟩
  | string s => exact ⟨fun _ => .string s, fun _ => rfl⟩
  | array items ih =>
    rw [isWellFormed, itemsWellFormed_iff]
    refine ⟨fun h => .array items fun v hv => (ih v hv).mp (h v hv), fun h v hv => ?_⟩
    cases h with
    | array _ each => exact (ih v hv).mpr (each v hv)
  | object members ih =>
    rw [isWellFormed, Bool.and_eq_true, decide_eq_true_eq, fieldsWellFormed_iff]
    refine ⟨fun h => .object members h.1 fun m hm => (ih m hm).mp (h.2 m hm), fun h => ?_⟩
    cases h with
    | object _ rising each => exact ⟨rising, fun m hm => (ih m hm).mpr (each m hm)⟩

/-- Whether a value is well formed can be decided. -/
instance (v : Json) : Decidable v.WellFormed := decidable_of_iff _ (isWellFormed_iff v)

/-- An object stays well formed when a well formed value is put into it. -/
theorem WellFormed.insert {members : Fields} (h : WellFormed (.object members)) (k : String)
    {v : Json} (hv : WellFormed v) : WellFormed (.object (members.insert k v)) := by
  obtain ⟨rising, each⟩ := wellFormed_object_iff.mp h
  refine wellFormed_object_iff.mpr ⟨rising.insert k v, fun key w hw => ?_⟩
  rw [Fields.get?_insert] at hw
  split at hw
  · exact Option.some.inj hw ▸ hv
  · exact each key w hw

/-- An object stays well formed when a member is taken out of it. -/
theorem WellFormed.erase {members : Fields} (h : WellFormed (.object members)) (k : String) :
    WellFormed (.object (members.erase k)) := by
  obtain ⟨rising, each⟩ := wellFormed_object_iff.mp h
  refine wellFormed_object_iff.mpr ⟨rising.erase k, fun key w hw => ?_⟩
  rw [Fields.get?_erase] at hw
  split at hw
  · simp at hw
  · exact each key w hw

/-- The empty object is well formed. -/
theorem WellFormed.nil : WellFormed (.object []) := .object [] .nil (by simp)

/-- The members that an object is read as having are well formed, none if it is no object. -/
theorem WellFormed.object? {v : Json} (h : WellFormed v) :
    WellFormed (.object (v.object?.getD [])) := by
  cases v with
  | object members => exact h
  | _ => exact WellFormed.nil

end Json

end Reconcile
