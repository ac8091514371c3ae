import Reconcile.Proofs.MergePatch.Paths
import Reconcile.Proofs.MergePatch.ThreeWay

/-!
# Fields that nobody owns

A config claims what it states, and whatever the live object has besides may be another writer's. Such a
field stays as long as all that was applied last on the way to it is stated still. What is withdrawn is
taken away as a whole, and with it whatever others put below. This is the only way in which a field that
nobody owns is lost.
-/

namespace Reconcile

namespace MergePatch

/-- A path leaves a value when nothing is at its end and only objects are on the way. -/
theorem leaves_iff {path : List String} {v : Json} : leaves path v = true ↔
    v.at? path = none ∧ ∀ before after, path = before ++ after → after ≠ [] →
      ∀ u, v.at? before = some u → ∃ members, u = .object members := by
  induction path generalizing v with
  | nil => simp [leaves, Json.at?]
  | cons key rest ih =>
    rw [leaves_cons_iff]
    constructor
    · rintro ⟨members, rfl, hbelow⟩
      refine ⟨?_, fun before after hsplit hafter u hu => ?_⟩
      · rw [Json.at?_object]
        cases hkey : members.get? key with
        | none => rfl
        | some w => exact (ih.mp (hbelow w hkey)).1
      · rcases List.cons_eq_append_iff.mp hsplit with ⟨rfl, -⟩ | ⟨more, rfl, hrest⟩
        · exact ⟨members, (Option.some.inj hu).symm⟩
        · rw [Json.at?_object] at hu
          obtain ⟨w, hw, hu⟩ := Option.bind_eq_some_iff.mp hu
          exact (ih.mp (hbelow w hw)).2 more after hrest hafter u hu
    · rintro ⟨hnone, hobjects⟩
      obtain ⟨members, rfl⟩ := hobjects [] (key :: rest) rfl (List.cons_ne_nil _ _) v rfl
      refine ⟨members, rfl, fun w hw => ih.mpr ⟨?_, fun before after hsplit hafter u hu => ?_⟩⟩
      · rwa [Json.at?_object, hw, Option.bind_some] at hnone
      · refine hobjects (key :: before) after (by rw [hsplit, List.cons_append]) hafter u ?_
        rw [Json.at?_object, hw, Option.bind_some, hu]

/-- All that was applied last on the way to a path, its end included, is stated still. -/
def StillStated (last : Option Json) (modified : Json) (path : List String) : Prop :=
  ∀ before after, path = before ++ after → last.bind (Json.at? before) ≠ none →
    modified.at? before ≠ none

section StillStated

variable {last : Option Json} {key : String} {rest : List String} {modified : Fields}

/-- A path into what was applied last leads through its members, if it has any. -/
theorem bind_at?_cons : last.bind (Json.at? (key :: rest)) =
    ((lastFields last).get? key).bind (Json.at? rest) := by
  rcases last with _ | v
  · rfl
  · cases v <;> rfl

/-- Below a key that the config lacks nothing may have been applied. -/
theorem stillStated_of_missing (h : modified.get? key = none) :
    StillStated last (.object modified) (key :: rest) ↔ (lastFields last).get? key = none := by
  constructor
  · intro hstated
    cases hlast : (lastFields last).get? key with
    | none => rfl
    | some u =>
      refine absurd ?_ (hstated [key] rest rfl ?_)
      · rw [Json.at?_object, h, Option.bind_none]
      · rw [bind_at?_cons, hlast]
        exact Option.some_ne_none u
  · intro hlast before after hsplit hbefore
    rcases List.cons_eq_append_iff.mp hsplit with ⟨rfl, -⟩ | ⟨more, rfl, -⟩
    · exact Option.some_ne_none _
    · rw [bind_at?_cons, hlast] at hbefore
      exact absurd rfl hbefore

/-- Below a key that the config has, all depends on what is stated there. -/
theorem stillStated_of_stated {v : Json} (h : modified.get? key = some v) :
    StillStated last (.object modified) (key :: rest) ↔
      StillStated ((lastFields last).get? key) v rest := by
  constructor
  · intro hstated before after hsplit hbefore
    have hbelow := hstated (key :: before) after (by rw [hsplit, List.cons_append])
    rw [bind_at?_cons, Json.at?_object, h, Option.bind_some] at hbelow
    exact hbelow hbefore
  · intro hstated before after hsplit hbefore
    rcases List.cons_eq_append_iff.mp hsplit with ⟨rfl, -⟩ | ⟨more, rfl, hrest⟩
    · exact Option.some_ne_none _
    · rw [bind_at?_cons] at hbefore
      rw [Json.at?_object, h, Option.bind_some]
      exact hstated more after hrest hbefore

end StillStated

/-- The patch for a member that is an object on both sides changes it member by member. -/
theorem appliedMember_object (last : Option Json) (modified current : Fields) :
    appliedMember (member? last (.object modified) (.object current)) (some (.object current)) =
      some (.object (applyFields (fields (lastFields last) modified current) current)) := by
  rw [member?_object]
  split
  next h => rw [h]; rfl
  next => rfl

/-- A member keeps what is at a path that leaves the config, unless something on the way is withdrawn. -/
theorem at?_appliedMember_iff {path : List String} (last : Option Json) {modified current : Json}
    (hwf : modified.WellFormed) (hleaves : leaves path modified = true) (hthere : current.at? path ≠ none) :
    (appliedMember (member? last modified current) (some current)).bind (Json.at? path) =
        current.at? path ↔ StillStated last modified path := by
  induction path generalizing last modified current with
  | nil => simp [leaves] at hleaves
  | cons key rest ih =>
    obtain ⟨modified, rfl, hbelow⟩ := leaves_cons_iff.mp hleaves
    obtain ⟨rising, each⟩ := Json.wellFormed_object_iff.mp hwf
    cases current with
    | object current =>
      rw [Json.at?_object] at hthere
      obtain ⟨w, hw⟩ : ∃ w, Fields.get? key current = some w := by
        cases hkey : Fields.get? key current with
        | none => simp [hkey] at hthere
        | some w => exact ⟨w, rfl⟩
      rw [hw, Option.bind_some] at hthere
      rw [appliedMember_object, Option.bind_some, Json.at?_object, Json.at?_object,
        get?_applyFields (rising_fields rising _ _), get?_fields rising, hw, Option.bind_some]
      cases hv : modified.get? key with
      | none =>
        rw [stillStated_of_missing hv]
        cases hlast : (lastFields last).has key with
        | true =>
          -- the key is withdrawn, and all below it goes
          obtain ⟨u, hu⟩ := Fields.has_iff.mp hlast
          exact iff_of_false (fun h => hthere h.symm) (by simp [hu])
        | false => exact iff_of_true rfl (Fields.has_eq_false_iff.mp hlast)
      | some v =>
        rw [stillStated_of_stated hv]
        exact ih _ (each key v hv) (hbelow v hv) hthere
    | _ => simp [Json.at?, Json.get?] at hthere

/-- A field that the config does not state, and at which it could be put without replacing a value, keeps
its value in a merge exactly when all that was applied last on the way to it is stated still. -/
theorem at?_apply_threeWay_iff (last : Fields) {modified current : Fields} {path : List String}
    (hwf : Json.WellFormed (.object modified)) (hthere : (Json.object current).at? path ≠ none)
    (hunstated : (Json.object modified).at? path = none)
    (hobjects : ∀ before after, path = before ++ after → after ≠ [] →
      ∀ u, (Json.object modified).at? before = some u → ∃ members, u = .object members) :
    (apply (threeWay (.object last) (.object modified) (.object current)) (.object current)).at? path =
        (Json.object current).at? path ↔
      ∀ before after, path = before ++ after → (Json.object last).at? before ≠ none →
        (Json.object modified).at? before ≠ none := by
  have hmember := at?_appliedMember_iff (some (.object last)) hwf
    (leaves_iff.mpr ⟨hunstated, hobjects⟩) hthere
  rwa [appliedMember_object, Option.bind_some] at hmember

/-- A label of another writer stays where the config drops its own label but states an empty map of
labels still. -/
theorem at?_apply_threeWay_of_emptied_labels :
    let last : Fields := [("labels", .object [("own", .string "1")]), ("name", .string "a")]
    let modified : Fields := [("labels", .object []), ("name", .string "a")]
    let current : Fields :=
      [("labels", .object [("foreign", .string "2"), ("own", .string "1")]), ("name", .string "a")]
    (apply (threeWay (.object last) (.object modified) (.object current)) (.object current)).at?
      ["labels", "foreign"] = some (.string "2") := by
  intro last modified current
  have hleaves : leaves ["labels", "foreign"] (.object modified) = true := by decide
  obtain ⟨hunstated, hobjects⟩ := leaves_iff.mp hleaves
  refine (at?_apply_threeWay_iff last (by decide) (by decide) hunstated hobjects).mpr ?_
  intro before after hsplit
  rcases List.cons_eq_append_iff.mp hsplit with ⟨rfl, -⟩ | ⟨before, rfl, hrest⟩
  · decide
  rcases List.cons_eq_append_iff.mp hrest with ⟨rfl, -⟩ | ⟨before, rfl, hend⟩
  · decide
  obtain ⟨rfl, -⟩ := List.append_eq_nil_iff.mp hend.symm
  decide

/-- A label of another writer goes where the config states no labels any more, although neither config
states it. -/
theorem at?_apply_threeWay_of_dropped_labels :
    let last : Fields := [("labels", .object [("own", .string "1")]), ("name", .string "a")]
    let modified : Fields := [("name", .string "a")]
    let current : Fields :=
      [("labels", .object [("foreign", .string "2"), ("own", .string "1")]), ("name", .string "a")]
    let path := ["labels", "foreign"]
    Json.WellFormed (.object modified) ∧ Json.WellFormed (.object current) ∧
      Json.nullFree (.object modified) = true ∧ (Json.object current).at? path = some (.string "2") ∧
      (Json.object last).at? path = none ∧ (Json.object modified).at? path = none ∧
      (∀ before after, path = before ++ after → after ≠ [] →
        ∀ u, (Json.object modified).at? before = some u → ∃ members, u = .object members) ∧
      (apply (threeWay (.object last) (.object modified) (.object current)) (.object current)).at? path =
        none := by
  intro last modified current path
  have hleaves : leaves path (.object modified) = true := by decide
  obtain ⟨hunstated, hobjects⟩ := leaves_iff.mp hleaves
  exact ⟨by decide, by decide, by decide, by decide, by decide, hunstated, hobjects, by decide⟩

end MergePatch

end Reconcile
