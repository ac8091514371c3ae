import Reconcile.Json.Parser
import Reconcile.Proofs.Json.Fields

/-!
# What is read is well formed

A text may give the members of an object in any order and more than once. They are put in one after the
other, so that what `Json.parse?` returns is well formed whatever the text.
-/

namespace Reconcile

namespace Json

/-- Members of well formed values make up a well formed object, in whatever order they come. -/
theorem wellFormed_ofMembers {members : List (String × Json)} (h : ∀ m ∈ members, m.2.WellFormed) :
    (ofMembers members).WellFormed := by
  have hfold (fields : Fields) (hfields : WellFormed (.object fields)) :
      WellFormed (.object (members.foldl (fun fields m => Fields.insert m.1 m.2 fields) fields)) := by
    induction members generalizing fields with
    | nil => exact hfields
    | cons m rest ih =>
      exact ih (fun other hother => h other (List.mem_cons_of_mem _ hother)) _
        (hfields.insert m.1 (h m List.mem_cons_self))
  exact hfold [] .nil

/-- With so much fuel whatever is read is well formed. -/
structure ReadsWellFormed (fuel : Nat) : Prop where
  value : ∀ {room : Nat} {cs rest : List Char} {v : Json}, readValue fuel room cs = some (v, rest) → v.WellFormed
  items : ∀ {room : Nat} {cs rest : List Char} {items : List Json},
    readItems fuel room cs = some (items, rest) → ∀ v ∈ items, v.WellFormed
  members : ∀ {room : Nat} {cs rest : List Char} {members : List (String × Json)},
    readMembers fuel room cs = some (members, rest) → ∀ m ∈ members, m.2.WellFormed

section Step

variable {fuel : Nat} (h : ReadsWellFormed fuel) {room : Nat} {cs rest : List Char}

include h

/-- An array is made up of its items, an object of its members, and everything else has no parts. -/
theorem wellFormed_readValue {v : Json} (hread : readValue (fuel + 1) room cs = some (v, rest)) :
    v.WellFormed := by
  -- one case for each way in which a value starts
  unfold readValue at hread
  split at hread
  all_goals simp only [Option.bind_eq_bind, Option.bind_eq_some_iff, Option.some.injEq, Prod.mk.injEq,
    Prod.exists] at hread
  next => exact hread.1 ▸ .null
  next => exact hread.1 ▸ .bool true
  next => exact hread.1 ▸ .bool false
  next =>
    obtain ⟨s, -, -, rfl, -⟩ := hread
    exact .string s
  next =>
    split at hread
    next => simp at hread
    next =>
      split at hread
      next => exact (Prod.mk.inj (Option.some.inj hread)).1 ▸ .array [] (by simp)
      next =>
        obtain ⟨⟨items, _⟩, hitems, hread⟩ := Option.bind_eq_some_iff.mp hread
        exact (Prod.mk.inj (Option.some.inj hread)).1 ▸ .array items (h.items hitems)
  next =>
    split at hread
    next => simp at hread
    next =>
      split at hread
      next => exact (Prod.mk.inj (Option.some.inj hread)).1 ▸ .nil
      next =>
        obtain ⟨⟨members, _⟩, hmembers, hread⟩ := Option.bind_eq_some_iff.mp hread
        exact (Prod.mk.inj (Option.some.inj hread)).1 ▸ wellFormed_ofMembers (h.members hmembers)
  next =>
    obtain ⟨n, -, -, rfl, -⟩ := hread
    exact .number n
  next =>
    obtain ⟨n, -, -, rfl, -⟩ := hread
    exact .number n

/-- The items of a list that was read are well formed, if the reader of values is sound. -/
theorem wellFormed_readItems {items : List Json} (hread : readItems (fuel + 1) room cs = some (items, rest)) :
    ∀ v ∈ items, v.WellFormed := by
  unfold readItems at hread
  simp only [Option.bind_eq_bind] at hread
  obtain ⟨⟨first, after⟩, hfirst, hread⟩ := Option.bind_eq_some_iff.mp hread
  have hfirst := h.value hfirst
  simp only at hread
  split at hread
  next =>
    obtain ⟨⟨others, _⟩, hothers, hread⟩ := Option.bind_eq_some_iff.mp hread
    obtain rfl := (Prod.mk.inj (Option.some.inj hread)).1
    exact List.forall_mem_cons.mpr ⟨hfirst, h.items hothers⟩
  next =>
    obtain rfl := (Prod.mk.inj (Option.some.inj hread)).1
    exact List.forall_mem_singleton.mpr hfirst
  next => simp at hread

/-- So are the members of an object. -/
theorem wellFormed_readMembers {members : List (String × Json)}
    (hread : readMembers (fuel + 1) room cs = some (members, rest)) : ∀ m ∈ members, m.2.WellFormed := by
  unfold readMembers at hread
  split at hread
  next =>
    simp only [Option.bind_eq_bind] at hread
    obtain ⟨⟨key, _⟩, -, hread⟩ := Option.bind_eq_some_iff.mp hread
    simp only at hread
    split at hread
    next =>
      obtain ⟨⟨first, _⟩, hfirst, hread⟩ := Option.bind_eq_some_iff.mp hread
      have hfirst := h.value hfirst
      simp only at hread
      split at hread
      next =>
        obtain ⟨⟨others, _⟩, hothers, hread⟩ := Option.bind_eq_some_iff.mp hread
        obtain rfl := (Prod.mk.inj (Option.some.inj hread)).1
        exact List.forall_mem_cons.mpr ⟨hfirst, h.members hothers⟩
      next =>
        obtain rfl := (Prod.mk.inj (Option.some.inj hread)).1
        exact List.forall_mem_singleton.mpr hfirst
      next => simp at hread
    next => simp at hread
  next => simp at hread

end Step

/-- However much fuel there is, what is read is well formed. -/
theorem readsWellFormed (fuel : Nat) : ReadsWellFormed fuel := by
  induction fuel with
  | zero => constructor <;> intros <;> simp_all [readValue, readItems, readMembers]
  | succ fuel ih => exact ⟨wellFormed_readValue ih, wellFormed_readItems ih, wellFormed_readMembers ih⟩

/-- What a text denotes is well formed. -/
theorem wellFormed_of_parse? {text : String} {v : Json} (h : parse? text = some v) : v.WellFormed := by
  simp only [parse?, Option.bind_eq_bind] at h
  obtain ⟨⟨w, rest⟩, hread, h⟩ := Option.bind_eq_some_iff.mp h
  simp only [Option.ite_none_right_eq_some, Option.some.injEq] at h
  exact h.2 ▸ (readsWellFormed _).value hread

end Json

end Reconcile
