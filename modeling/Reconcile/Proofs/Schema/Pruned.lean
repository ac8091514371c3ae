import Reconcile.Schema.Tighten
import Reconcile.Proofs.Schema.Parts

/-!
# What pruning of nulls keeps

Pruning takes away the members that are null and leaves everything else where it was. So a place is lost
exactly when it lies at or below a null member, and at every other place the pruned value stands:
`Json.partAt_pruneNulls`. Items of an array are no members, so null items stay.
-/

namespace Reconcile

namespace Schema

/-- A place lies at or below a member that is null. -/
def UnderNullMember (v : Json) (place : Path) : Prop :=
  ∃ (above : Path) (key : String), above.under key <+: place ∧ partAt (above.under key) v = some .null

variable {v : Json}

/-- The whole value is under no member. -/
theorem not_underNullMember_nil (v : Json) : ¬UnderNullMember v [] := by
  rintro ⟨above, key, hprefix, -⟩
  rw [List.prefix_nil, Path.under, List.append_eq_nil_iff] at hprefix
  exact absurd hprefix.2 (List.cons_ne_nil _ _)

/-- A place is under a null member if its first step leads to one, or what the step leads to has one over
the rest of it. -/
theorem underNullMember_cons_iff {step : PathStep} {below : Path} :
    UnderNullMember v (step :: below) ↔
      ∃ w, partAt [step] v = some w ∧ ((∃ key, step = .key key) ∧ w = .null ∨ UnderNullMember w below) := by
  constructor
  · rintro ⟨above, key, hprefix, hnull⟩
    cases above with
    | nil =>
      obtain rfl : PathStep.key key = step := (List.cons_prefix_cons.mp hprefix).1
      exact ⟨.null, hnull, .inl ⟨⟨key, rfl⟩, rfl⟩⟩
    | cons first rest =>
      obtain ⟨rfl, hrest⟩ := List.cons_prefix_cons.mp hprefix
      rw [Path.under, List.cons_append, partAt_cons, Option.bind_eq_some_iff] at hnull
      obtain ⟨w, hw, hnull⟩ := hnull
      exact ⟨w, hw, .inr ⟨rest, key, hrest, hnull⟩⟩
  · rintro ⟨w, hw, ⟨⟨key, rfl⟩, rfl⟩ | ⟨above, key, hprefix, hnull⟩⟩
    · exact ⟨[], key, List.cons_prefix_cons.mpr ⟨rfl, List.nil_prefix⟩, hw⟩
    · refine ⟨step :: above, key, List.cons_prefix_cons.mpr ⟨rfl, hprefix⟩, ?_⟩
      rw [Path.under, List.cons_append, partAt_cons, hw]
      exact hnull

/-- Nothing but that null stands under a null member. -/
theorem eq_null_of_underNullMember {place : Path} {w : Json} (hunder : UnderNullMember v place)
    (hw : partAt place v = some w) : w = .null := by
  obtain ⟨above, key, ⟨below, rfl⟩, hnull⟩ := hunder
  rw [partAt_append, hnull, Option.bind_some] at hw
  cases below with
  | nil => exact (Option.some.inj hw).symm
  | cons step rest => cases hw.symm.trans (partAt_scalar rfl rfl step rest)

end Schema

namespace Json

open Schema

/-- Items are pruned one by one. -/
theorem pruneItems_eq_map (items : List Json) : pruneItems items = items.map pruneNulls := by
  induction items with
  | nil => rw [pruneItems, List.map_nil]
  | cons v rest ih => rw [pruneItems, ih, List.map_cons]

/-- Scalars have no members to lose. -/
theorem pruneNulls_scalar {v : Json} (harray : v.isArray = false) (hobject : v.isObject = false) :
    v.pruneNulls = v := by
  cases v with
  | array | object => contradiction
  | _ => rw [pruneNulls] <;> simp

/-- A value is pruned to null only if it is null. -/
theorem pruneNulls_eq_null_iff {v : Json} : v.pruneNulls = .null ↔ v = .null := by
  cases v <;> simp [pruneNulls]

/-- Pruning keeps scalars, arrays with as many items, and objects. -/
theorem outline_pruneNulls (v : Json) : v.pruneNulls.outline = v.outline := by
  cases v with
  | array items =>
    rw [pruneNulls, outline, outline, pruneItems_eq_map, List.map_map]
    rfl
  | object members => rw [pruneNulls, outline, outline]
  | _ => rw [pruneNulls_scalar rfl rfl]

/-- The members that are not null are kept, each pruned. -/
theorem get?_pruneFields {members : Fields} (rising : members.Rising) (key : String) :
    Fields.get? key (pruneFields members) =
      (members.get? key).bind fun v => if v = .null then none else some v.pruneNulls := by
  induction members with
  | nil => rfl
  | cons m rest ih =>
    obtain ⟨k, v⟩ := m
    have hrest := ih (Fields.rising_cons.mp rising).2
    rw [pruneFields, Fields.get?_cons]
    by_cases hk : k = key
    · rw [if_pos hk, Option.bind_some]
      by_cases hnull : v = .null
      · -- no later member has the key
        rw [if_pos (isNull_iff.mpr hnull), if_pos hnull, hrest, ← hk, Fields.get?_eq_none_of_rising rising]
        rfl
      · rw [if_neg (mt isNull_iff.mp hnull), if_neg hnull, Fields.get?_cons, if_pos hk]
    · rw [if_neg hk, ← hrest]
      split
      next => rfl
      next => rw [Fields.get?_cons, if_neg hk]

/-- The keys that are left are in their order. -/
theorem keys_pruneFields_sublist (members : Fields) :
    (Fields.keys (pruneFields members)).Sublist members.keys := by
  induction members with
  | nil => exact .slnil
  | cons m rest ih =>
    obtain ⟨k, v⟩ := m
    rw [pruneFields]
    split
    next => exact ih.cons k
    next => exact ih.cons_cons k

/-- So members that are left are in order. -/
theorem rising_pruneFields {members : Fields} (rising : members.Rising) : Fields.Rising (pruneFields members) :=
  rising.of_keys (keys_pruneFields_sublist members)

/-- A value stays well formed without its nulls. -/
theorem wellFormed_pruneNulls {v : Json} (hwf : v.WellFormed) : v.pruneNulls.WellFormed := by
  induction v with
  | array items ih =>
    cases hwf with
    | array _ each =>
      rw [pruneNulls, pruneItems_eq_map]
      refine .array _ fun w hw => ?_
      obtain ⟨v, hv, rfl⟩ := List.mem_map.mp hw
      exact ih v hv (each v hv)
  | object members ih =>
    obtain ⟨rising, each⟩ := wellFormed_object_iff.mp hwf
    rw [pruneNulls]
    refine wellFormed_object_iff.mpr ⟨rising_pruneFields rising, fun key w hw => ?_⟩
    rw [get?_pruneFields rising] at hw
    obtain ⟨v, hv, hw⟩ := Option.bind_eq_some_iff.mp hw
    split at hw
    next => simp at hw
    next => exact Option.some.inj hw ▸ ih _ (Fields.mem_of_get? hv) (each key v hv)
  | _ => rwa [pruneNulls_scalar rfl rfl]

/-- A place under a null member is lost, and at every other place the pruned value stands. -/
theorem partAt_pruneNulls {v : Json} (hwf : v.WellFormed) (place : Path) :
    (UnderNullMember v place → partAt place v.pruneNulls = none) ∧
      (¬UnderNullMember v place → partAt place v.pruneNulls = (partAt place v).map pruneNulls) := by
  -- a step below: into an array by its index, into an object by a member that is not null
  induction place generalizing v with
  | nil => exact ⟨fun h => absurd h (not_underNullMember_nil v), fun _ => rfl⟩
  | cons step below ih =>
    rw [underNullMember_cons_iff]
    cases v with
    | array items =>
      cases step with
      | key key => exact ⟨fun _ => rfl, fun _ => rfl⟩
      | index i =>
        rw [pruneNulls, pruneItems_eq_map, partAt_index_cons, partAt_index_cons, partAt_index_cons,
          List.getElem?_map]
        cases hitem : items[i]? with
        | none => exact ⟨fun _ => rfl, fun _ => rfl⟩
        | some w =>
          cases hwf with
          | array _ each => simpa [partAt] using ih (each w (List.mem_of_getElem? hitem))
    | object members =>
      cases step with
      | index i => exact ⟨fun _ => rfl, fun _ => rfl⟩
      | key key =>
        obtain ⟨rising, each⟩ := wellFormed_object_iff.mp hwf
        rw [pruneNulls, partAt_key_cons, partAt_key_cons, partAt_key_cons, get?_pruneFields rising]
        cases hmember : Fields.get? key members with
        | none => exact ⟨fun _ => rfl, fun _ => rfl⟩
        | some w =>
          by_cases hnull : w = .null
          · simp [partAt, hnull]
          · simpa [partAt, hnull] using ih (each key w hmember)
    | _ =>
      rw [pruneNulls_scalar rfl rfl, partAt_scalar rfl rfl step below]
      exact ⟨fun _ => rfl, fun _ => rfl⟩

/-- A second pruning finds nothing. -/
theorem pruneNulls_pruneNulls (v : Json) : v.pruneNulls.pruneNulls = v.pruneNulls := by
  induction v with
  | array items ih =>
    rw [pruneNulls, pruneNulls, pruneItems_eq_map, pruneItems_eq_map, List.map_map]
    exact congrArg Json.array (List.map_congr_left ih)
  | object members ih =>
    rw [pruneNulls, pruneNulls]
    refine congrArg Json.object ?_
    induction members with
    | nil => rw [pruneFields, pruneFields]
    | cons m rest ihrest =>
      obtain ⟨k, v⟩ := m
      have hrest := ihrest fun x hx => ih x (List.mem_cons_of_mem _ hx)
      rw [pruneFields]
      split
      next => exact hrest
      next hnull =>
        have hleft : ¬v.pruneNulls.isNull = true := by rwa [isNull_iff, pruneNulls_eq_null_iff, ← isNull_iff]
        rw [pruneFields, if_neg hleft, hrest, ih (k, v) List.mem_cons_self]
  | _ => rw [pruneNulls_scalar rfl rfl, pruneNulls_scalar rfl rfl]

/-- Pruning leaves a value as it is exactly where no member is null. -/
theorem pruneNulls_eq_self_iff {v : Json} (hwf : v.WellFormed) :
    v.pruneNulls = v ↔ ∀ place, ¬UnderNullMember v place := by
  constructor
  · rintro hself place ⟨above, key, -, hnull⟩
    have hlost := (partAt_pruneNulls hwf (above.under key)).1 ⟨above, key, List.prefix_rfl, hnull⟩
    rw [hself, hnull] at hlost
    contradiction
  · refine fun h => eq_of_outlineAt (wellFormed_pruneNulls hwf) hwf fun place => ?_
    rw [outlineAt, (partAt_pruneNulls hwf place).2 (h place), Option.map_map, outlineAt]
    exact congrArg (Option.map · _) (funext outline_pruneNulls)

/-- After pruning no object has a null member. An array keeps its items in their order, the null ones
included. Places under a null member are gone, every other place of the value is left with the same scalar, an
array as long, or an object, and there are no others. A second pruning changes nothing. -/
theorem pruneNulls_removes_null_members {v : Json} (hwf : v.WellFormed) :
    (∀ (place : Path) (members : Fields), partAt place v.pruneNulls = some (.object members) →
      ∀ m ∈ members, m.2 ≠ .null) ∧
    (∀ (place : Path) (items : List Json), partAt place v = some (.array items) →
      ∃ left : List Json, partAt place v.pruneNulls = some (.array left) ∧ left.length = items.length ∧
        ∀ i : Nat, left[i]? = items[i]?.map pruneNulls ∧ (left[i]? = some .null ↔ items[i]? = some .null)) ∧
    (∀ (place : Path) (w : Json), partAt place v = some w → ¬UnderNullMember v place →
      ∃ left : Json, partAt place v.pruneNulls = some left ∧ left.outline = w.outline ∧
        (w.isArray = false → w.isObject = false → left = w)) ∧
    (∀ (place : Path) (left : Json), partAt place v.pruneNulls = some left →
      ¬UnderNullMember v place ∧ ∃ w : Json, partAt place v = some w) ∧
    v.pruneNulls.pruneNulls = v.pruneNulls := by
  have hfound {place : Path} {left : Json} (h : partAt place v.pruneNulls = some left) :
      ¬UnderNullMember v place ∧ ∃ w, partAt place v = some w ∧ w.pruneNulls = left := by
    obtain ⟨hlost, hkept⟩ := partAt_pruneNulls hwf place
    have hplace : ¬UnderNullMember v place := fun hunder => by simp [hlost hunder] at h
    rw [hkept hplace] at h
    exact ⟨hplace, Option.map_eq_some_iff.mp h⟩
  refine ⟨fun place members hmembers m hm hnull => ?_, fun place items hitems => ?_,
    fun place w hw hplace => ?_, fun place left hleft => ?_, pruneNulls_pruneNulls v⟩
  · -- a null member would be one before, and its place lost
    have hobject := wellFormed_partAt (wellFormed_pruneNulls hwf) hmembers
    have hmember : partAt (place.under m.1) v.pruneNulls = some .null := by
      rw [partAt_under, hmembers, Option.bind_some, Json.get?, ← hnull]
      exact Fields.get?_of_mem (wellFormed_object_iff.mp hobject).1 hm
    obtain ⟨hplace, w, hw, hwnull⟩ := hfound hmember
    exact hplace ⟨place, m.1, List.prefix_rfl, hw.trans (congrArg some (pruneNulls_eq_null_iff.mp hwnull))⟩
  · have hplace : ¬UnderNullMember v place := fun hunder => by
      cases eq_null_of_underNullMember hunder hitems
    refine ⟨items.map pruneNulls, ?_, List.length_map _, fun i => ⟨List.getElem?_map, ?_⟩⟩
    · rw [(partAt_pruneNulls hwf place).2 hplace, hitems, Option.map_some, pruneNulls, pruneItems_eq_map]
    · rw [List.getElem?_map, Option.map_eq_some_iff]
      simp only [pruneNulls_eq_null_iff, exists_eq_right]
  · refine ⟨w.pruneNulls, ?_, outline_pruneNulls w, pruneNulls_scalar⟩
    rw [(partAt_pruneNulls hwf place).2 hplace, hw, Option.map_some]
  · obtain ⟨hplace, w, hw, -⟩ := hfound hleft
    exact ⟨hplace, w, hw⟩

/-- Nulls in metadata, in an item, below it, and as items themselves. -/
theorem pruneNulls_removes_null_members_of_items :
    let inner (more : Fields) : Json := .object (more ++ [("y", .array [.null, .object []])])
    let metadata (more : Fields) : Json := .object (more ++ [("name", .string "a")])
    let v : Json :=
      .object [("items", .array [.null, inner [("x", .null)]]), ("metadata", metadata [("created", .null)]),
        ("status", .null)]
    let items : Path := [.key "items"]
    let name : Path := [.key "metadata", .key "name"]
    v.WellFormed ∧ v.pruneNulls = .object [("items", .array [.null, inner []]), ("metadata", metadata [])] ∧
      (∃ left : List Json, partAt items v.pruneNulls = some (.array left) ∧ left.length = 2 ∧
        left[0]? = some .null) ∧
      ¬UnderNullMember v name ∧ partAt name v.pruneNulls = some (.string "a") ∧
      v.pruneNulls.pruneNulls = v.pruneNulls := by
  intro inner metadata v items name
  have hwf : v.WellFormed := by decide
  obtain ⟨-, harrays, -, hplaces, htwice⟩ := pruneNulls_removes_null_members hwf
  obtain ⟨left, hleft, hlength, hitems⟩ := harrays items [.null, inner [("x", .null)]] rfl
  have hname : partAt name v.pruneNulls = some (.string "a") := rfl
  exact ⟨hwf, rfl, ⟨left, hleft, hlength, (hitems 0).2.mpr rfl⟩, (hplaces name _ hname).1, hname, htwice⟩

end Json

end Reconcile
