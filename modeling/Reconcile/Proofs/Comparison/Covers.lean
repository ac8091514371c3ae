import Reconcile.Comparison.Trim
import Reconcile.Proofs.Resource.Held
import Reconcile.Proofs.MergePatch.Paths

/-!
# What covers a config

A comparison with what a config mentions trims the live value first and compares the two sides then.
`Json.covers` says in one pass when they come out alike: when the config is covered by the live value.
By a value that holds it, as the one does that a patch leaves, a config is covered as soon as that value
has an empty object wherever the config has one.
-/

namespace Reconcile

open MergePatch (Holds)

namespace Json

mutual

/-- Whether a config is covered by a live value. What the config does not mention is free, but an empty
object mentions everything, and of what the config mentions a server leaves out only empty values. -/
def covers : Json → Json → Bool
  | .object [], .object live => live.isEmpty
  | .object (m :: config), .object live => coversFields (m :: config) live
  | .array config, .array live => coversItems config live
  | config, live => config.sameValue live

/-- Whether each member is covered. -/
def coversFields : List (String × Json) → Fields → Bool
  | [], _ => true
  | (k, v) :: rest, live =>
    (match live.get? k with
      | some w => covers v w
      | none => v.isEmptyValue)
      && coversFields rest live

/-- Whether each item is covered by the one in its place, with none left over on either side. -/
def coversItems : List Json → List Json → Bool
  | [], [] => true
  | c :: config, l :: live => covers c l && coversItems config live
  | _, _ => false

end

section Covers

variable {config live : Fields}

/-- Members are covered by those under the same keys, or are empty where there are none. -/
theorem coversFields_iff : coversFields config live = true ↔ ∀ m ∈ config,
    (∀ w, live.get? m.1 = some w → m.2.covers w = true) ∧
      (live.get? m.1 = none → m.2.isEmptyValue = true) := by
  induction config with
  | nil => simp [coversFields]
  | cons m rest ih =>
    obtain ⟨k, v⟩ := m
    rw [coversFields, Bool.and_eq_true, ih, List.forall_mem_cons]
    refine and_congr_left fun _ => ?_
    cases live.get? k <;> simp

/-- A config is covered by an object when its members are, and an empty one by an empty object only. -/
theorem covers_object_iff : covers (.object config) (.object live) = true ↔
    (config = [] → live = []) ∧ coversFields config live = true := by
  cases config with
  | nil => simp [covers, coversFields]
  | cons m rest => simp [covers]

/-- What is covered is covered under each of its keys. -/
theorem covers_get? (h : covers (.object config) (.object live) = true) {key : String} {v w : Json}
    (hv : config.get? key = some v) (hw : live.get? key = some w) : v.covers w = true :=
  (coversFields_iff.mp (covers_object_iff.mp h).2 _ (Fields.mem_of_get? hv)).1 w hw

/-- Only an object is covered by an object. -/
theorem object_of_covers {v : Json} (h : v.covers (.object live) = true) :
    ∃ members, v = .object members := by
  cases v with
  | object members => exact ⟨members, rfl⟩
  | _ => simp [covers, sameValue] at h

/-- Only the text itself is covered by a text. -/
theorem eq_of_covers_string {v : Json} {s : String} (h : v.covers (.string s) = true) : v = .string s := by
  cases v with
  | string t => simpa [covers, sameValue] using h
  | object members => cases members <;> simp [covers, sameValue] at h
  | _ => simp [covers, sameValue] at h

/-- A list is covered by one of the same values when its items are. -/
theorem coversItems_of_sameItems {config live : List Json}
    (h : ∀ c ∈ config, ∀ l, c.sameValue l = true → c.covers l = true)
    (hsame : sameItems config live = true) : coversItems config live = true := by
  induction config generalizing live with
  | nil => cases live <;> simp [sameItems, coversItems] at hsame ⊢
  | cons c rest ih =>
    cases live with
    | nil => simp [sameItems] at hsame
    | cons l others =>
      rw [sameItems, Bool.and_eq_true] at hsame
      rw [coversItems, Bool.and_eq_true]
      exact ⟨h c List.mem_cons_self l hsame.1, ih (fun v hv => h v (List.mem_cons_of_mem _ hv)) hsame.2⟩

/-- A value is covered by whatever is the same. -/
theorem covers_of_sameValue {config live : Json} (h : config.sameValue live = true) :
    config.covers live = true := by
  induction config generalizing live with
  | array config ih =>
    cases live with
    | array live => exact coversItems_of_sameItems (fun c hc l => ih c hc) h
    | _ => simp [sameValue] at h
  | object config ih =>
    cases live with
    | object live =>
      rw [sameValue, Bool.and_eq_true, beq_iff_eq, sameFields_iff] at h
      obtain ⟨hlength, heach⟩ := h
      refine covers_object_iff.mpr ⟨fun hnil => ?_, coversFields_iff.mpr fun m hm => ?_⟩
      · exact List.eq_nil_of_length_eq_zero (by rw [← hlength, hnil, List.length_nil])
      · obtain ⟨w, hw, hsame⟩ := heach m hm
        refine ⟨fun u hu => ?_, fun hnone => ?_⟩
        · obtain rfl : w = u := Option.some.inj (hw.symm.trans hu)
          exact ih m hm hsame
        · simp [hw] at hnone
    | _ => simp [sameValue] at h
  | _ => cases live <;> simpa [covers] using h

end Covers

section Trim

/-- What is left of a live object, key by key. -/
theorem get?_trimFields {config : Fields} (rising : config.Rising) (live : Fields) (key : String) :
    Fields.get? key (trimFields config live) =
      (config.get? key).bind fun v =>
        match live.get? key with
        | some w => some (v.trim w)
        | none => if v.isEmptyValue then some v else none := by
  induction config with
  | nil => rfl
  | cons m rest ih =>
    obtain ⟨k, v⟩ := m
    have ih := ih (Fields.rising_cons.mp rising).2
    rw [trimFields, Fields.get?_cons]
    by_cases hk : k = key
    · subst hk
      rw [Fields.get?_eq_none_of_rising rising] at ih
      rw [if_pos rfl, Option.bind_some]
      cases live.get? k with
      | some w => simp [Fields.get?_cons]
      | none => cases v.isEmptyValue <;> simp [Fields.get?_cons, ih]
    · rw [if_neg hk, ← ih]
      cases live.get? k with
      | some w => simp only [Fields.get?_cons, if_neg hk]
      | none => cases v.isEmptyValue <;> simp [Fields.get?_cons, hk]

/-- Nothing that is covered is dropped. -/
theorem length_trimFields {config live : Fields} (h : coversFields config live = true) :
    (trimFields config live).length = config.length := by
  induction config with
  | nil => rfl
  | cons m rest ih =>
    obtain ⟨k, v⟩ := m
    rw [coversFields, Bool.and_eq_true] at h
    rw [trimFields]
    cases hlive : live.get? k with
    | some w => simp [ih h.2]
    | none =>
      have hempty : v.isEmptyValue = true := by simpa [hlive] using h.1
      simp [hempty, ih h.2]

/-- Lists are trimmed item by item. -/
theorem sameItems_trimItems {config : List Json}
    (h : ∀ c ∈ config, ∀ l, c.sameValue (c.trim l) = c.covers l) (live : List Json) :
    sameItems config (trimItems config live) = coversItems config live := by
  induction config generalizing live with
  | nil => cases live <;> rfl
  | cons c rest ih =>
    cases live with
    | nil => rfl
    | cons l others =>
      rw [trimItems, sameItems, coversItems, h c List.mem_cons_self,
        ih (fun v hv => h v (List.mem_cons_of_mem _ hv))]

/-- A config is the same as what it mentions of a live value exactly when it is covered by that value. -/
theorem sameValue_trim {config live : Json} (hwf : config.WellFormed) :
    config.sameValue (config.trim live) = config.covers live := by
  induction config generalizing live with
  | number n =>
    cases live with
    | number l =>
      simp only [trim, covers, sameValue]
      split
      next hsame => rw [hsame, n.sameValue_refl]
      next => rfl
    | _ => rfl
  | array config ih =>
    cases live with
    | array live =>
      cases hwf with
      | array _ each => exact sameItems_trimItems (fun c hc l => ih c hc (each c hc)) live
    | _ => rfl
  | object config ih =>
    rcases config with _ | ⟨m, rest⟩
    · cases live with
      | object live => cases live <;> rfl
      | _ => rfl
    cases live with
    | object live =>
      obtain ⟨rising, each⟩ := wellFormed_object_iff.mp hwf
      have hfields : sameFields (m :: rest) (trimFields (m :: rest) live) = true ↔
          coversFields (m :: rest) live = true := by
        rw [sameFields_iff, coversFields_iff]
        refine forall₂_congr fun x hx => ?_
        have hfound : Fields.get? x.1 (m :: rest) = some x.2 := Fields.get?_of_mem rising hx
        rw [get?_trimFields rising, hfound, Option.bind_some]
        cases hlive : Fields.get? x.1 live with
        | some w => simp [ih x hx (each x.1 x.2 hfound)]
        | none => cases x.2.isEmptyValue <;> simp [sameValue_self (each x.1 x.2 hfound)]
      -- trimming may drop members, but none that is covered, so the lengths say nothing more
      rw [trim, covers, Bool.eq_iff_iff, sameValue, Bool.and_eq_true, beq_iff_eq, hfields]
      exact and_iff_right_of_imp fun h => (length_trimFields h).symm
    | _ => rfl
  | _ => rfl

end Trim

/-- Wherever a config has an empty object, the live value has one too. -/
def KeepsEmpty (config live : Json) : Prop :=
  ∀ path, config.at? path = some (.object []) → live.at? path = some (.object [])

section KeepsEmpty

/-- An empty config is kept empty by an empty object alone. -/
theorem keepsEmpty_nil_iff {live : Fields} : KeepsEmpty (.object []) (.object live) ↔ live = [] := by
  constructor
  · intro h
    exact Json.object.inj (Option.some.inj (h [] rfl))
  · rintro rfl
    exact fun _ => id

/-- A config that is not empty keeps what is empty in it when each of its members does. -/
theorem keepsEmpty_object_iff {config live : Fields} (hne : config ≠ [])
    (hhas : ∀ key v, config.get? key = some v → ∃ w, live.get? key = some w) :
    KeepsEmpty (.object config) (.object live) ↔
      ∀ key v w, config.get? key = some v → live.get? key = some w → KeepsEmpty v w := by
  constructor
  · intro h key v w hv hw path hpath
    have hbelow := h (key :: path) (by rw [at?_object, hv, Option.bind_some, hpath])
    rwa [at?_object, hw, Option.bind_some] at hbelow
  · intro h path hpath
    cases path with
    | nil => exact absurd (Json.object.inj (Option.some.inj hpath)) hne
    | cons key rest =>
      rw [at?_object] at hpath ⊢
      obtain ⟨v, hv, hrest⟩ := Option.bind_eq_some_iff.mp hpath
      obtain ⟨w, hw⟩ := hhas key v hv
      rw [hw, Option.bind_some]
      exact h key v w hv hw rest hrest

/-- Nothing is empty in what is no object. -/
theorem keepsEmpty_of_not_object {config : Json} (h : config.object? = none) (live : Json) :
    KeepsEmpty config live := by
  intro path hpath
  cases path with
  | nil =>
    obtain rfl := Option.some.inj hpath
    simp [object?] at h
  | cons key rest => cases config <;> simp_all [at?, get?, object?]

mutual

/-- No object is empty, at any depth that is reached through members alone. -/
def emptyFree : Json → Bool
  | .object members => !members.isEmpty && emptyFreeFields members
  | _ => true

/-- No member is an empty object, nor has one inside. -/
def emptyFreeFields : List (String × Json) → Bool
  | [] => true
  | (_, v) :: rest => emptyFree v && emptyFreeFields rest

end

/-- What is free of empty values has only members that are. -/
theorem emptyFree_get? {config : Fields} {key : String} {v : Json} (h : emptyFreeFields config = true)
    (hv : config.get? key = some v) : v.emptyFree = true := by
  induction config with
  | nil => simp at hv
  | cons m rest ih =>
    obtain ⟨k, w⟩ := m
    rw [emptyFreeFields, Bool.and_eq_true] at h
    rw [Fields.get?_cons] at hv
    split at hv
    · exact Option.some.inj hv ▸ h.1
    · exact ih h.2 hv

/-- No path leads to an empty object where there is none. -/
theorem at?_ne_of_emptyFree {config : Json} (h : config.emptyFree = true) (path : List String) :
    config.at? path ≠ some (.object []) := by
  induction path generalizing config with
  | nil =>
    rintro ⟨⟩
    simp [emptyFree] at h
  | cons key rest ih =>
    cases config with
    | object members =>
      rw [emptyFree, Bool.and_eq_true] at h
      rw [at?_object]
      cases hv : Fields.get? key members with
      | none => simp
      | some v => exact ih (emptyFree_get? h.2 hv)
    | _ => simp [at?, get?]

/-- A config without empty objects keeps all that are in it. -/
theorem keepsEmpty_of_emptyFree {config : Json} (h : config.emptyFree = true) (live : Json) :
    KeepsEmpty config live := fun path hpath => absurd hpath (at?_ne_of_emptyFree h path)

/-- A config is covered by a value that holds it exactly when the value is empty wherever the config is. -/
theorem covers_iff_of_holds {config live : Json} (hwf : config.WellFormed) (h : Holds config live) :
    config.covers live = true ↔ config.KeepsEmpty live := by
  induction config generalizing live with
  | object config ih =>
    obtain ⟨live, rfl⟩ := MergePatch.object_of_holds h
    obtain ⟨rising, each⟩ := wellFormed_object_iff.mp hwf
    have hmembers := (MergePatch.holds_object_iff rising).mp h
    have hstep (key : String) (v w : Json) (hv : Fields.get? key config = some v)
        (hw : Fields.get? key live = some w) : v.covers w = true ↔ v.KeepsEmpty w := by
      obtain ⟨u, hu, hholds⟩ := hmembers key v hv
      obtain rfl : u = w := Option.some.inj (hu.symm.trans hw)
      exact ih _ (Fields.mem_of_get? hv) (each key v hv) hholds
    rw [covers_object_iff]
    rcases config with _ | ⟨m, rest⟩
    · simp [keepsEmpty_nil_iff, coversFields]
    have hne : m :: rest ≠ [] := List.cons_ne_nil m rest
    rw [keepsEmpty_object_iff hne fun key v hv => (hmembers key v hv).imp fun _ h => h.1, coversFields_iff]
    constructor
    · rintro ⟨-, hcovered⟩ key v w hv hw
      exact (hstep key v w hv hw).mp ((hcovered _ (Fields.mem_of_get? hv)).1 w hw)
    · intro hkeeps
      refine ⟨fun hnil => absurd hnil hne, fun x hx => ?_⟩
      have hfound := Fields.get?_of_mem rising hx
      obtain ⟨w, hw, -⟩ := hmembers x.1 x.2 hfound
      refine ⟨fun u hu => (hstep x.1 x.2 u hfound hu).mpr (hkeeps x.1 x.2 u hfound hu), fun hnone => ?_⟩
      simp [hw] at hnone
  | _ =>
    exact iff_of_true (covers_of_sameValue ((MergePatch.holds_iff_of_not_object (.inl rfl)).mp h))
      (keepsEmpty_of_not_object rfl _)

end KeepsEmpty

end Json

end Reconcile
