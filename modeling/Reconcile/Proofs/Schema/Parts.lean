import Reconcile.Schema.Problem
import Reconcile.Proofs.Json.Fields

/-!
# Values by their parts

What stands at a place of a value, read step by step. `Json.outline` is a value without its parts, so that
a change of a value is told place by place: what it does to the outline there, and which places come and go.
-/

namespace Reconcile

/-- A value without its parts: a scalar itself, the number of items of an array, or that it is an object. -/
def Json.outline : Json → Json
  | .array items => .array (items.map fun _ => .null)
  | .object _ => .object []
  | v => v

namespace Schema

/-- What stands at a place of a value. -/
def partAt : Path → Json → Option Json
  | [], v => some v
  | .key key :: below, v => (v.get? key).bind (partAt below)
  | .index i :: below, .array items => items[i]?.bind (partAt below)
  | .index _ :: _, _ => none

/-- The outline of what stands at a place. -/
def outlineAt (place : Path) (v : Json) : Option Json := (partAt place v).map Json.outline

/-- A part of a part is a part. -/
theorem partAt_append (place below : Path) (v : Json) :
    partAt (place ++ below) v = (partAt place v).bind (partAt below) := by
  induction place generalizing v with
  | nil => rfl
  | cons step rest ih =>
    cases step with
    | key key =>
      rw [List.cons_append, partAt, partAt, Option.bind_assoc]
      exact congrArg _ (funext ih)
    | index i =>
      cases v with
      | array items =>
        rw [List.cons_append, partAt, partAt, Option.bind_assoc]
        exact congrArg _ (funext ih)
      | _ => rfl

/-- A part is found step by step. -/
theorem partAt_cons (step : PathStep) (below : Path) (v : Json) :
    partAt (step :: below) v = (partAt [step] v).bind (partAt below) :=
  partAt_append [step] below v

/-- The part under a key is what is found there. -/
theorem partAt_under (key : String) (place : Path) (v : Json) :
    partAt (place.under key) v = (partAt place v).bind (Json.get? key) := by
  rw [Path.under, partAt_append]
  refine congrArg _ (funext fun w => ?_)
  cases hkey : w.get? key <;> rw [partAt, hkey] <;> rfl

/-- Behind a key a part is found in the member. -/
theorem partAt_key_cons (key : String) (below : Path) (members : Fields) :
    partAt (.key key :: below) (.object members) = (members.get? key).bind (partAt below) := rfl

/-- Behind an index it is found in the item. -/
theorem partAt_index_cons (i : Nat) (below : Path) (items : List Json) :
    partAt (.index i :: below) (.array items) = items[i]?.bind (partAt below) := rfl

/-- A key leads to the member. -/
theorem partAt_key (key : String) (members : Fields) :
    partAt [.key key] (.object members) = members.get? key :=
  (partAt_key_cons key [] members).trans (Option.bind_fun_some _)

/-- An index leads to the item. -/
theorem partAt_index (i : Nat) (items : List Json) : partAt [.index i] (.array items) = items[i]? :=
  (partAt_index_cons i [] items).trans (Option.bind_fun_some _)

/-- The items of an array stand under their positions. -/
theorem partAt_item {place : Path} {v : Json} {items : List Json} (h : partAt place v = some (.array items))
    (i : Nat) : partAt (place.item i) v = items[i]? := by
  rw [Path.item, partAt_append, h, Option.bind_some, partAt_index]

/-- Behind a key an outline is that of the member. -/
theorem outlineAt_key (key : String) (below : Path) (v : Json) :
    outlineAt (.key key :: below) v = (v.get? key).bind (outlineAt below) := by
  rw [outlineAt, partAt, Option.map_bind]
  rfl

/-- Behind an index it is that of the item. -/
theorem outlineAt_index (i : Nat) (below : Path) (items : List Json) :
    outlineAt (.index i :: below) (.array items) = items[i]?.bind (outlineAt below) := by
  rw [outlineAt, partAt_index_cons, Option.map_bind]
  rfl

/-- A scalar has no parts. -/
theorem partAt_scalar {v : Json} (harray : v.isArray = false) (hobject : v.isObject = false)
    (step : PathStep) (below : Path) : partAt (step :: below) v = none := by
  cases v with
  | array | object => contradiction
  | _ => cases step <;> rfl

/-- What stands in a well formed value is well formed. -/
theorem wellFormed_partAt {v w : Json} {place : Path} (hwf : v.WellFormed) (h : partAt place v = some w) :
    w.WellFormed := by
  induction place generalizing v with
  | nil => exact Option.some.inj h ▸ hwf
  | cons step below ih =>
    cases v with
    | array items =>
      cases step with
      | key key => contradiction
      | index i =>
        obtain ⟨u, hu, h⟩ := Option.bind_eq_some_iff.mp h
        cases hwf with
        | array _ each => exact ih (each u (List.mem_of_getElem? hu)) h
    | object members =>
      cases step with
      | key key =>
        obtain ⟨u, hu, h⟩ := Option.bind_eq_some_iff.mp h
        exact ih ((Json.wellFormed_object_iff.mp hwf).2 key u hu) h
      | index i => contradiction
    | _ => cases h.symm.trans (partAt_scalar rfl rfl step below)

/-- Parts with the same outlines are the same if values with the same outlines are. -/
theorem eq_of_bind_outlineAt {a b : Option Json}
    (h : ∀ below, a.bind (outlineAt below) = b.bind (outlineAt below))
    (hparts : ∀ v w, a = some v → b = some w → (∀ below, outlineAt below v = outlineAt below w) → v = w) :
    a = b := by
  cases a with
  | none =>
    cases b with
    | none => rfl
    | some w => cases h []
  | some v =>
    cases b with
    | none => cases h []
    | some w => exact congrArg some (hparts v w rfl rfl h)

/-- Values with the same outlines at all places are the same. -/
theorem eq_of_outlineAt {v w : Json} (hv : v.WellFormed) (hw : w.WellFormed)
    (h : ∀ place, outlineAt place v = outlineAt place w) : v = w := by
  -- at the root the outlines tell the kind of value, and below it each part by itself
  have houtline : v.outline = w.outline := Option.some.inj (h [])
  induction v generalizing w with
  | array items ih =>
    cases w with
    | array others =>
      refine congrArg Json.array (List.ext_getElem? fun i => eq_of_bind_outlineAt (fun below => ?_) ?_)
      · rw [← outlineAt_index, ← outlineAt_index]
        exact h (.index i :: below)
      · intro v w hitem hother hvw
        cases hv with
        | array _ eachItem =>
          cases hw with
          | array _ eachOther =>
            have hmem := List.mem_of_getElem? hitem
            exact ih v hmem (eachItem v hmem) (eachOther w (List.mem_of_getElem? hother)) hvw
              (Option.some.inj (hvw []))
    | _ => cases houtline
  | object members ih =>
    cases w with
    | object others =>
      obtain ⟨rising, eachMember⟩ := Json.wellFormed_object_iff.mp hv
      obtain ⟨rising', eachOther⟩ := Json.wellFormed_object_iff.mp hw
      refine congrArg Json.object (rising.ext rising' fun key => eq_of_bind_outlineAt (fun below => ?_) ?_)
      · exact (outlineAt_key key below _).symm.trans ((h (.key key :: below)).trans (outlineAt_key key below _))
      · intro v w hmember hother hvw
        exact ih _ (Fields.mem_of_get? hmember) (eachMember key v hmember) (eachOther key w hother) hvw
          (Option.some.inj (hvw []))
    | _ => cases houtline
  | _ => cases w <;> first | exact houtline | cases houtline

/-- The members of an object stand under their keys. -/
theorem partAt_member {place : Path} {v w : Json} {members : Fields} {key : String} (hwf : v.WellFormed)
    (h : partAt place v = some (.object members)) (member : (key, w) ∈ members) :
    partAt (place.under key) v = some w := by
  have rising := (Json.wellFormed_object_iff.mp (wellFormed_partAt hwf h)).1
  rw [partAt_under, h, Option.bind_some, Json.get?, Fields.get?_of_mem rising member]

end Schema

end Reconcile
