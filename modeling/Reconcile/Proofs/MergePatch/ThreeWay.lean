import Reconcile.Proofs.MergePatch.Apply

/-!
# The three-way merge

`MergePatch.merged` is what an object should become when a config is brought onto it, given the
config that was applied last, and it is defined with no patch in between: the config's members are
put over those that neither config lays claim to. `MergePatch.applyFields_fields` shows that
computing a patch and laying it over the live object leaves exactly this.
-/

namespace Reconcile

namespace Fields

/-- What is kept by its key is found as before. -/
theorem get?_filter (keep : String → Bool) (key : String) (fields : Fields) :
    Fields.get? key (fields.filter fun m => keep m.1) = if keep key then fields.get? key else none := by
  induction fields with
  | nil => simp
  | cons member rest ih =>
    obtain ⟨k, v⟩ := member
    rw [List.filter_cons, get?_cons]
    by_cases hk : k = key
    · subst hk
      by_cases hkeep : keep k = true
      · simp [hkeep, get?_cons]
      · simp only [hkeep, Bool.false_eq_true, if_false] at ih ⊢
        exact ih
    · rw [if_neg hk, ← ih]
      split
      · rw [get?_cons, if_neg hk]
      · rfl

end Fields

namespace MergePatch

/-- The members of a config under a key of the one before, none if there is no object. -/
def lastFields (last : Option Json) : Fields := (last.bind Json.object?).getD []

/-- The members of a live object that neither config lays claim to. -/
def unclaimed (last modified current : Fields) : Fields :=
  current.filter fun m => !modified.has m.1 && !last.has m.1

mutual

/-- What a member that both sides have becomes: objects are merged, and of other values the config's
counts, where the two differ. -/
def mergedMember (last : Option Json) : Json → Json → Json
  | .object modified, .object current =>
    .object (overlay (lastFields last) modified current (unclaimed (lastFields last) modified current))
  | modified, current => if modified.sameValue current then current else modified

/-- Puts the members of a config over others, each merged with what the live object has. -/
def overlay (last : Fields) : List (String × Json) → Fields → Fields → Fields
  | [], _, others => others
  | (k, v) :: rest, current, others =>
    (overlay last rest current others).insert k
      (match current.get? k with
        | none => v
        | some w => mergedMember (last.get? k) v w)

end

/-- What a live object becomes when `modified` is brought onto it and `last` was applied last. -/
def merged (last modified current : Fields) : Fields :=
  overlay last modified current (unclaimed last modified current)

/-- Objects are merged member by member. -/
theorem mergedMember_object (last : Option Json) (modified current : Fields) :
    mergedMember last (.object modified) (.object current) =
      .object (merged (lastFields last) modified current) := by
  rw [mergedMember, merged]

/-- A member is unclaimed when it is neither asked for now nor was before. -/
theorem get?_unclaimed (last modified current : Fields) (key : String) :
    (unclaimed last modified current).get? key =
      if modified.has key || last.has key then none else current.get? key := by
  rw [unclaimed, Fields.get?_filter fun k => !modified.has k && !last.has k]
  cases modified.has key <;> cases last.has key <;> rfl

/-- What is asked for is merged with what is there, and all else is as it was. -/
theorem get?_overlay (last modified current others : Fields) (key : String) :
    (overlay last modified current others).get? key =
      match modified.get? key with
      | none => others.get? key
      | some v =>
        match current.get? key with
        | none => some v
        | some w => some (mergedMember (last.get? key) v w) := by
  induction modified with
  | nil => simp [overlay]
  | cons member rest ih =>
    obtain ⟨k, v⟩ := member
    rw [overlay, Fields.get?_insert, Fields.get?_cons]
    by_cases hk : k = key
    · subst hk
      simp only [if_pos]
      cases current.get? k <;> rfl
    · rw [if_neg hk, if_neg hk, ih]

/-- The three-way merge, key by key. -/
theorem get?_merged (last modified current : Fields) (key : String) :
    (merged last modified current).get? key =
      match modified.get? key, current.get? key with
      | some v, none => some v
      | some v, some w => some (mergedMember (last.get? key) v w)
      | none, some w => if last.has key then none else some w
      | none, none => none := by
  rw [merged, get?_overlay, get?_unclaimed]
  cases hm : modified.get? key with
  | none =>
    rw [Fields.has_eq_false_iff.mpr hm]
    cases current.get? key <;> cases last.has key <;> rfl
  | some v => cases current.get? key <;> rfl

/-- An overlay of members in order is in order. -/
theorem rising_overlay (last modified current : Fields) {others : Fields} (h : others.Rising) :
    (overlay last modified current others).Rising := by
  induction modified with
  | nil => simpa [overlay] using h
  | cons member rest ih =>
    rw [overlay]
    exact ih.insert _ _

/-- So is what the merge comes to. -/
theorem rising_merged (last modified : Fields) {current : Fields} (h : current.Rising) :
    (merged last modified current).Rising :=
  rising_overlay _ _ _ (h.sublist List.filter_sublist)

/-! ### The patch, key by key -/

/-- Between objects the patch is that of their members, and there is none where that is empty. -/
theorem member?_object (last : Option Json) (modified current : Fields) :
    member? last (.object modified) (.object current) =
      if fields (lastFields last) modified current = [] then none
      else some (.object (fields (lastFields last) modified current)) := by
  rw [member?, fields, lastFields]
  split
  next h => rw [if_pos h]
  next h => rw [if_neg h]

/-- Between other values it is the one that is asked for, unless that is there. -/
theorem member?_of_not_object {last : Option Json} {modified current : Json}
    (h : modified.object? = none ∨ current.object? = none) :
    member? last modified current = if modified.sameValue current then none else some modified := by
  cases modified <;> cases current <;> first | rfl | simp [Json.object?] at h

/-- What is added under a key is what is asked for and missing, or the patch of what is there. -/
theorem get?_additions {modified : Fields} (rising : modified.Rising) (last current : Fields)
    (key : String) :
    (additions last modified current).get? key =
      match modified.get? key, current.get? key with
      | some v, none => some v
      | some v, some w => member? (last.get? key) v w
      | none, _ => none := by
  induction modified with
  | nil => simp [additions]
  | cons member rest ih =>
    obtain ⟨k, v⟩ := member
    have ih := ih (Fields.rising_cons.mp rising).2
    rw [additions, Fields.get?_cons]
    by_cases hk : k = key
    · subst hk
      rw [Fields.get?_eq_none_of_rising rising] at ih
      simp only [if_pos]
      cases hc : current.get? k with
      | none => simp [Fields.get?_cons]
      | some w =>
        cases hm : member? (last.get? k) v w with
        | none => simpa [hm] using ih
        | some patch => simp [Fields.get?_cons, hm]
    · rw [if_neg hk, ← ih]
      cases current.get? k with
      | none => simp only [Fields.get?_cons, if_neg hk]
      | some w =>
        cases hm : member? (last.get? k) v w with
        | none => simp only [hm]
        | some patch => simp only [hm, Fields.get?_cons, if_neg hk]

/-- Every addition has the key of a member of the config. -/
theorem mem_additions {last modified current : Fields} {m : String × Json}
    (h : m ∈ additions last modified current) : ∃ m' ∈ modified, m'.1 = m.1 := by
  induction modified with
  | nil => simp [additions] at h
  | cons member rest ih =>
    obtain ⟨k, v⟩ := member
    have hlater (h : m ∈ additions last rest current) : ∃ m' ∈ (k, v) :: rest, m'.1 = m.1 := by
      obtain ⟨m', hm', hkey⟩ := ih h
      exact ⟨m', List.mem_cons_of_mem _ hm', hkey⟩
    have hhere (patch : Json) (h : m ∈ (k, patch) :: additions last rest current) :
        ∃ m' ∈ (k, v) :: rest, m'.1 = m.1 := by
      rcases List.mem_cons.mp h with rfl | h
      · exact ⟨(k, v), List.mem_cons_self, rfl⟩
      · exact hlater h
    rw [additions] at h
    split at h
    · exact hhere v h
    · split at h
      · exact hlater h
      · exact hhere _ h

/-- Additions to members in order are in order. -/
theorem rising_additions {modified : Fields} (rising : modified.Rising) (last current : Fields) :
    (additions last modified current).Rising := by
  induction modified with
  | nil => simp [additions, Fields.Rising]
  | cons member rest ih =>
    obtain ⟨k, v⟩ := member
    obtain ⟨hlt, hrest⟩ := Fields.rising_cons.mp rising
    have hfirst (patch : Json) : Fields.Rising ((k, patch) :: additions last rest current) := by
      refine Fields.rising_cons.mpr ⟨fun m hm => ?_, ih hrest⟩
      obtain ⟨m', hm', hkey⟩ := mem_additions hm
      exact hkey ▸ hlt m' hm'
    rw [additions]
    split
    · exact hfirst v
    · split
      · exact ih hrest
      · exact hfirst _

/-- What is removed is null in the patch, and all else is as it was. -/
theorem get?_withRemovals (keys : List String) (patch : Fields) (key : String) :
    (withRemovals keys patch).get? key = if key ∈ keys then some .null else patch.get? key := by
  induction keys generalizing patch with
  | nil => simp [withRemovals]
  | cons k rest ih =>
    have hstep : withRemovals (k :: rest) patch = withRemovals rest (patch.insert k .null) := rfl
    rw [hstep, ih, Fields.get?_insert]
    by_cases hrest : key ∈ rest
    · simp [hrest]
    · by_cases hk : k = key
      · simp [hk]
      · simp [hk, hrest, Ne.symm hk]

/-- Removals leave a patch in order. -/
theorem rising_withRemovals (keys : List String) {patch : Fields} (h : patch.Rising) :
    (withRemovals keys patch).Rising := by
  induction keys generalizing patch with
  | nil => exact h
  | cons k rest ih => exact ih (h.insert k _)

/-- A key is dropped when it was asked for before, is there, and is not asked for any more. -/
theorem mem_dropped {last modified current : Fields} {key : String} :
    key ∈ dropped last modified current ↔
      last.has key = true ∧ modified.has key = false ∧ current.has key = true := by
  simp [dropped, Fields.mem_keys_iff]

/-- The patch between members in order is in order. -/
theorem rising_fields {modified : Fields} (rising : modified.Rising) (last current : Fields) :
    (fields last modified current).Rising :=
  rising_withRemovals _ (rising_additions rising last current)

/-- The patch between two objects, key by key. -/
theorem get?_fields {modified : Fields} (rising : modified.Rising) (last current : Fields)
    (key : String) :
    (fields last modified current).get? key =
      match modified.get? key, current.get? key with
      | some v, none => some v
      | some v, some w => member? (last.get? key) v w
      | none, some _ => if last.has key then some .null else none
      | none, none => none := by
  rw [fields, get?_withRemovals, get?_additions rising]
  have hdropped : key ∈ dropped last modified current ↔
      last.has key = true ∧ (modified.get? key).isSome = false ∧ (current.get? key).isSome = true :=
    mem_dropped
  simp only [hdropped]
  cases modified.get? key <;> cases current.get? key <;> cases last.has key <;> simp

/-! ### Laying the patch over the live object -/

/-- If the patch leads to the merged member wherever both sides have one, it leads to the merged
object. -/
theorem applyFields_fields_of_members (last : Fields) {modified current : Fields}
    (hm : Json.WellFormed (.object modified)) (hfree : Json.nullFreeFields modified = true)
    (hc : current.Rising)
    (hboth : ∀ key v w, modified.get? key = some v → current.get? key = some w →
      appliedMember (member? (last.get? key) v w) (some w) =
        some (mergedMember (last.get? key) v w)) :
    applyFields (fields last modified current) current = merged last modified current := by
  obtain ⟨rising, each⟩ := Json.wellFormed_object_iff.mp hm
  refine Fields.Rising.ext (rising_applyFields _ hc) (rising_merged last modified hc) fun key => ?_
  rw [get?_applyFields (rising_fields rising last current), get?_fields rising, get?_merged]
  cases hmod : modified.get? key with
  | none =>
    cases current.get? key with
    | none => rfl
    | some w => cases last.has key <;> rfl
  | some v =>
    cases hcur : current.get? key with
    | none =>
      obtain ⟨hnull, hvfree⟩ := Json.nullFree_get? hfree hmod
      show appliedMember (some v) none = some v
      rw [appliedMember_some hnull]
      exact congrArg some (apply_eq_self (each key v hmod) hvfree rfl)
    | some w => exact hboth key v w hmod hcur

/-- Where the values are not both objects, the one that is asked for takes the place of the other,
unless they are the same. -/
theorem mergedMember_of_not_object {last : Option Json} {modified current : Json}
    (h : modified.object? = none ∨ current.object? = none) :
    mergedMember last modified current =
      if modified.sameValue current then current else modified := by
  cases modified <;> cases current <;> first | rfl | simp [Json.object?] at h

/-- Where one side is no object, the config's value is laid down as it stands or not at all. -/
theorem appliedMember_of_not_object {last : Option Json} {modified current : Json}
    (hnull : modified ≠ .null) (hself : apply modified current = modified)
    (h : modified.object? = none ∨ current.object? = none) :
    appliedMember (member? last modified current) (some current) =
      some (mergedMember last modified current) := by
  rw [member?_of_not_object h, mergedMember_of_not_object h]
  cases modified.sameValue current with
  | true => rfl
  | false =>
    rw [if_neg Bool.false_ne_true, if_neg Bool.false_ne_true, appliedMember_some hnull]
    exact congrArg some hself

/-- The patch for a member leads to the merged member. -/
theorem appliedMember_member? {last : Option Json} {modified current : Json}
    (hm : modified.WellFormed) (hfree : modified.nullFree = true) (hnull : modified ≠ .null)
    (hc : current.WellFormed) :
    appliedMember (member? last modified current) (some current) =
      some (mergedMember last modified current) := by
  induction modified generalizing last current with
  | object modified ih =>
    cases hobj : current.object? with
    | none => exact appliedMember_of_not_object hnull (apply_eq_self hm hfree hobj) (.inr hobj)
    | some fieldsOf =>
      obtain ⟨members, rfl⟩ : ∃ members, current = .object members := by
        cases current <;> first | exact ⟨_, rfl⟩ | simp [Json.object?] at hobj
      obtain ⟨-, each⟩ := Json.wellFormed_object_iff.mp hm
      obtain ⟨crising, ceach⟩ := Json.wellFormed_object_iff.mp hc
      have hlay := applyFields_fields_of_members (lastFields last) hm hfree crising
        fun key v w hv hw => by
          obtain ⟨hvnull, hvfree⟩ := Json.nullFree_get? hfree hv
          exact ih _ (Fields.mem_of_get? hv) (each key v hv) hvfree hvnull (ceach key w hw)
      rw [member?_object, mergedMember_object, ← hlay]
      split
      next hempty => rw [hempty]; rfl
      next => rfl
  | _ => exact appliedMember_of_not_object hnull rfl (.inl rfl)

/-- The patch between two objects, laid over the live one, leaves the merged object. -/
theorem applyFields_fields (last : Fields) {modified current : Fields}
    (hm : Json.WellFormed (.object modified)) (hfree : Json.nullFreeFields modified = true)
    (hc : Json.WellFormed (.object current)) :
    applyFields (fields last modified current) current = merged last modified current := by
  obtain ⟨-, each⟩ := Json.wellFormed_object_iff.mp hm
  obtain ⟨rising, ceach⟩ := Json.wellFormed_object_iff.mp hc
  refine applyFields_fields_of_members last hm hfree rising fun key v w hv hw => ?_
  obtain ⟨hnull, hvfree⟩ := Json.nullFree_get? hfree hv
  exact appliedMember_member? (each key v hv) hvfree hnull (ceach key w hw)

/-- Bringing a config onto a live object by a patch leaves exactly the merged object: what only the
config has is added, what both have is merged where both are objects and is the config's elsewhere
unless the two are the same value, and what only the live object has stays unless it was applied
last. -/
theorem apply_threeWay (last modified current : Fields)
    (hm : Json.WellFormed (.object modified)) (hfree : Json.nullFree (.object modified) = true)
    (hc : Json.WellFormed (.object current)) :
    apply (threeWay (.object last) (.object modified) (.object current)) (.object current) =
        .object (merged last modified current) ∧
      ∀ key, (merged last modified current).get? key =
        match modified.get? key, current.get? key with
        | some v, none => some v
        | some (.object m), some (.object c) => some (.object (merged (lastFields (last.get? key)) m c))
        | some v, some w => some (if v.sameValue w then w else v)
        | none, some w => if last.has key then none else some w
        | none, none => none := by
  constructor
  · exact congrArg Json.object (applyFields_fields last hm hfree hc)
  · intro key
    rw [get?_merged]
    cases modified.get? key with
    | none => cases current.get? key <;> rfl
    | some v =>
      cases current.get? key with
      | none => cases v <;> rfl
      | some w =>
        cases v with
        | object m =>
          cases w with
          | object c => exact congrArg some (mergedMember_object _ m c)
          | _ => exact congrArg some (mergedMember_of_not_object (.inr rfl))
        | _ => cases w <;> exact congrArg some (mergedMember_of_not_object (.inl rfl))

/-- A config that drops a key, changes a scalar into an object and leaves a foreign key alone. -/
theorem apply_threeWay_mixed :
    let last : Fields := [("data", .object [("b", .string "2")]), ("gone", .bool true)]
    let modified : Fields :=
      [("data", .object [("a", .string "1"), ("c", .array [.null])]), ("kind", .object [("x", .object [])])]
    let current : Fields :=
      [("data", .object [("a", .string "0"), ("b", .string "2"), ("d", .string "3")]),
        ("gone", .bool false), ("kind", .string "Plain")]
    apply (threeWay (.object last) (.object modified) (.object current)) (.object current) =
      .object [("data", .object [("a", .string "1"), ("c", .array [.null]), ("d", .string "3")]),
        ("kind", .object [("x", .object [])])] := by
  intro last modified current
  have h := (apply_threeWay last modified current (by decide) (by decide) (by decide)).1
  exact h.trans (by decide)

end MergePatch

end Reconcile
