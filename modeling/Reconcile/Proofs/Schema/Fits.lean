import Mathlib.Data.List.Forall2
import Reconcile.Schema.Reader
import Reconcile.Proofs.Json.Fields

/-!
# When a value fits a schema

A value fits a schema when nothing in it does not. What that asks of the parts of the value is said once
for each way to build a schema. Two schemas agree on some values when these fit both or neither, and
agreement is kept by building: schemas agree when what they ask of each part agrees on the values that can
stand there.
-/

namespace Reconcile.Schema

section Fits

variable (follow : String → Check)

/-- A value fits a schema at a place. -/
def Fits (s : Schema) (place : Path) (v : Json) : Prop := s.problems follow place v = []

variable {follow} {place : Path} {v : Json} {members : Fields}

/-- Whether a value fits can be decided. -/
instance (s : Schema) : Decidable (s.Fits follow place v) := decidable_of_iff _ List.isEmpty_iff

/-- A value fits all schemas at once when it fits each of them. -/
theorem fits_all {parts : List Schema} :
    (all parts).Fits follow place v ↔ ∀ s ∈ parts, s.Fits follow place v := by
  rw [Fits, problems]
  induction parts with
  | nil => simp [problemsOfAll]
  | cons s rest ih => rw [problemsOfAll, List.append_eq_nil_iff, ih, List.forall_mem_cons, Fits]

example : (all []).Fits follow place v := by cbv

/-- It fits the opposite of a schema when it does not fit that. -/
theorem fits_not {source : Json} {s : Schema} :
    (Schema.not source s).Fits follow place v ↔ ¬s.Fits follow place v := by
  rw [Fits, problems, Fits, require]
  cases s.problems follow place v <;> simp

/-- All items pass when each of them does at its own place. -/
theorem eachItem_eq_nil_iff {check : Check} {start : Nat} {items : List Json} :
    eachItem check place start items = [] ↔
      ∀ i w, items[i]? = some w → check (place.item (start + i)) w = [] := by
  induction items generalizing start with
  | nil => simp [eachItem]
  | cons first rest ih =>
    rw [eachItem, List.append_eq_nil_iff, ih]
    constructor
    · rintro ⟨hfirst, hrest⟩ i w hw
      cases i with
      | zero => simpa using Option.some.inj hw ▸ hfirst
      | succ i => simpa [Nat.add_assoc, Nat.add_comm 1] using hrest i w hw
    · refine fun h => ⟨h 0 first rfl, fun i w hw => ?_⟩
      simpa [Nat.add_assoc, Nat.add_comm 1] using h (i + 1) w hw

/-- All members pass when each that is chosen does at its own place. -/
theorem eachMember_eq_nil_iff {chosen : String → Bool} {check : Check} :
    eachMember chosen check place members = [] ↔
      ∀ m ∈ members, chosen m.1 = true → check (place.under m.1) m.2 = [] := by
  rw [eachMember, List.flatMap_eq_nil_iff]
  refine forall₂_congr fun ⟨key, w⟩ _ => ?_
  cases hchosen : chosen key <;> simp [hchosen]

/-- Members pass by name when each that is there fits its schema. -/
theorem problemsOfNamed_eq_nil_iff {named : List (String × Schema)} :
    problemsOfNamed follow named place members = [] ↔
      ∀ n ∈ named, ∀ w, members.get? n.1 = some w → n.2.Fits follow (place.under n.1) w := by
  induction named with
  | nil => simp [problemsOfNamed]
  | cons n rest ih =>
    obtain ⟨key, s⟩ := n
    rw [problemsOfNamed, List.append_eq_nil_iff, ih, List.forall_mem_cons]
    refine and_congr_left fun _ => ?_
    cases members.get? key <;> simp [Fits]

/-- They pass by pattern when each fits all schemas whose patterns occur in its key. -/
theorem problemsOfPatterned_eq_nil_iff {patterned : List (Matcher × Schema)} :
    problemsOfPatterned follow patterned place members = [] ↔
      ∀ n ∈ patterned, ∀ m ∈ members, n.1 m.1 = true → n.2.Fits follow (place.under m.1) m.2 := by
  induction patterned with
  | nil => simp [problemsOfPatterned]
  | cons n rest ih =>
    obtain ⟨p, s⟩ := n
    rw [problemsOfPatterned, List.append_eq_nil_iff, ih, List.forall_mem_cons, eachMember_eq_nil_iff]
    rfl

/-- None is refused when every member is listed. -/
theorem others_eq_nil_iff {named : List String} {patterned : List Matcher} :
    others named patterned members place = [] ↔ ∀ m ∈ members, isOther named patterned m.1 = false := by
  have hkeys : members.keys.filter (isOther named patterned) = [] ↔
      ∀ m ∈ members, isOther named patterned m.1 = false := by
    simp [Fields.keys, List.filter_eq_nil_iff]
  rw [others, ← hkeys]
  split
  next h => simp [h]
  next h => simpa using h

/-- An object fits when its members fit by name, by pattern, and as others. -/
theorem fits_object {named : List (String × Schema)} {patterned : List (Matcher × Schema)} {rest : Schema} :
    (Schema.object named patterned rest).Fits follow place (.object members) ↔
      problemsOfNamed follow named place members = [] ∧
        problemsOfPatterned follow patterned place members = [] ∧
        ∀ m ∈ members, isOther (named.map (·.1)) (patterned.map (·.1)) m.1 = true →
          rest.Fits follow (place.under m.1) m.2 := by
  rw [Fits, problems, List.append_eq_nil_iff, List.append_eq_nil_iff, and_assoc, eachMember_eq_nil_iff]
  rfl

/-- It fits a closed schema when they fit by name and by pattern and there are no others. -/
theorem fits_closedObject {named : List (String × Schema)} {patterned : List (Matcher × Schema)} :
    (closedObject named patterned).Fits follow place (.object members) ↔
      problemsOfNamed follow named place members = [] ∧
        problemsOfPatterned follow patterned place members = [] ∧
        ∀ m ∈ members, isOther (named.map (·.1)) (patterned.map (·.1)) m.1 = false := by
  rw [Fits, problems, List.append_eq_nil_iff, List.append_eq_nil_iff, and_assoc, others_eq_nil_iff]

/-- Of what is no object nothing is asked. -/
theorem fits_object_of_not_object {named : List (String × Schema)} {patterned : List (Matcher × Schema)}
    {rest : Schema} (h : v.isObject = false) : (Schema.object named patterned rest).Fits follow place v := by
  cases v with
  | object => contradiction
  | _ => simp [Fits, problems]

/-- So it is where others are refused. -/
theorem fits_closedObject_of_not_object {named : List (String × Schema)}
    {patterned : List (Matcher × Schema)} (h : v.isObject = false) :
    (closedObject named patterned).Fits follow place v := by
  cases v with
  | object => contradiction
  | _ => simp [Fits, problems]

/-- Nothing is asked of members where none are spoken of. -/
theorem fits_object_nil : (Schema.object [] [] (.all [])).Fits follow place v := by
  cases v with
  | object members => simp [fits_object, problemsOfNamed, problemsOfPatterned, fits_all]
  | _ => exact fits_object_of_not_object rfl

end Fits

section Agree

variable (follow : String → Check)

/-- Two schemas agree on some values when these fit both or neither. -/
def Agree (on : Json → Prop) (s t : Schema) : Prop :=
  ∀ place v, on v → (s.Fits follow place v ↔ t.Fits follow place v)

/-- Schemas agree one by one, each on values of its own. -/
inductive AgreeInTurn (on : Nat → Json → Prop) : Nat → List Schema → List Schema → Prop
  | nil (i : Nat) : AgreeInTurn on i [] []
  | cons {i : Nat} {s t : Schema} {rest rest' : List Schema} (first : Agree follow (on i) s t)
    (later : AgreeInTurn on (i + 1) rest rest') : AgreeInTurn on i (s :: rest) (t :: rest')

/-- Schemas under the same keys agree, each on values of its own. -/
def AgreeKeyed {κ : Type} (on : κ → Json → Prop) : List (κ × Schema) → List (κ × Schema) → Prop :=
  List.Forall₂ fun a b => a.1 = b.1 ∧ Agree follow (on a.1) a.2 b.2

variable {follow} {on : Json → Prop} {s t : Schema}

/-- A schema asks the same as itself. -/
theorem Agree.refl (on : Json → Prop) (s : Schema) : Agree follow on s s := fun _ _ _ => Iff.rfl

/-- Schemas that agree on some values agree on fewer. -/
theorem Agree.mono {on' : Json → Prop} (h : Agree follow on s t) (hon : ∀ v, on' v → on v) :
    Agree follow on' s t := fun place v hv => h place v (hon v hv)

/-- Of schemas that agree in turn a value fits all of either or of neither. -/
theorem AgreeInTurn.all_iff {i : Nat} {l l' : List Schema} (h : AgreeInTurn follow (fun _ => on) i l l')
    {place : Path} {v : Json} (hv : on v) :
    (∀ s ∈ l, s.Fits follow place v) ↔ ∀ t ∈ l', t.Fits follow place v := by
  induction h with
  | nil => simp
  | cons first _ ih => rw [List.forall_mem_cons, List.forall_mem_cons, ih, first place v hv]

/-- It fits as many of them on either side. -/
theorem AgreeInTurn.count_eq {i : Nat} {l l' : List Schema} (h : AgreeInTurn follow (fun _ => on) i l l')
    {place : Path} {v : Json} (hv : on v) : countFitting follow l place v = countFitting follow l' place v := by
  induction h with
  | nil => rfl
  | @cons i s t rest rest' first _ ih =>
    have hfirst := first place v hv
    rw [countFitting, countFitting, ih]
    simp only [List.isEmpty_iff]
    congr 1
    exact if_congr hfirst rfl rfl

/-- A choice of all, of some or of one among schemas agrees when these do. -/
theorem AgreeInTurn.choices {i : Nat} {l l' : List Schema} (h : AgreeInTurn follow (fun _ => on) i l l') :
    Agree follow on (.all l) (.all l') ∧ Agree follow on (.anyOf l) (.anyOf l') ∧
      Agree follow on (.exactlyOne l) (.exactlyOne l') := by
  refine ⟨fun place v hv => ?_, fun place v hv => ?_, fun place v hv => ?_⟩
  · rw [fits_all, fits_all, h.all_iff hv]
  · rw [Fits, Fits, problems, problems, h.count_eq hv]
  · rw [Fits, Fits, problems, problems, h.count_eq hv]

/-- The opposites of schemas that agree do agree. -/
theorem Agree.not (h : Agree follow on s t) (source source' : Json) :
    Agree follow on (.not source s) (.not source' t) := fun place v hv => by
  rw [fits_not, fits_not, h place v hv]

/-- What is asked of every item agrees when it does on the items. -/
theorem Agree.array (h : Agree follow (fun w => ∃ items, on (.array items) ∧ w ∈ items) s t) :
    Agree follow on (.array s) (.array t) := by
  intro place v hv
  cases v with
  | array items =>
    rw [Fits, Fits, problems, problems, eachItem_eq_nil_iff, eachItem_eq_nil_iff]
    refine forall₃_congr fun i w hw => ?_
    exact h _ w ⟨items, hv, List.mem_of_getElem? hw⟩
  | _ => exact Iff.rfl

/-- What is asked of items in turn agrees when it does on the items in their places. -/
theorem AgreeInTurn.itemsInTurn {l l' : List Schema}
    (h : AgreeInTurn follow (fun i w => ∃ items, on (.array items) ∧ items[i]? = some w) 0 l l') :
    Agree follow on (.itemsInTurn l) (.itemsInTurn l') := by
  have hturn : ∀ {i : Nat} {l l' : List Schema} {before items : List Json} (place : Path),
      AgreeInTurn follow (fun i w => ∃ items, on (.array items) ∧ items[i]? = some w) i l l' →
      on (.array (before ++ items)) → before.length = i →
      (problemsInTurn follow l place i items = [] ↔ problemsInTurn follow l' place i items = []) := by
    intro i l l' before items place hagree hon hlength
    induction hagree generalizing before items with
    | nil => exact Iff.rfl
    | @cons i s t rest rest' first later ih =>
      cases items with
      | nil => simp [problemsInTurn]
      | cons w items =>
        have hw : (before ++ w :: items)[i]? = some w := by simp [← hlength]
        rw [problemsInTurn, problemsInTurn, List.append_eq_nil_iff, List.append_eq_nil_iff]
        refine and_congr (first _ w ⟨_, hon, hw⟩) (@ih (before ++ [w]) items ?_ ?_)
        · simpa using hon
        · simp [hlength]
  intro place v hv
  cases v with
  | array items =>
    rw [Fits, Fits, problems, problems]
    exact @hturn 0 l l' [] items place h hv rfl
  | _ => exact Iff.rfl

section Keyed

variable {κ : Type} {onKeys : κ → Json → Prop} {l l' : List (κ × Schema)}

/-- Schemas that agree by key have the same keys. -/
theorem AgreeKeyed.keys_eq (h : AgreeKeyed follow onKeys l l') : l.map (·.1) = l'.map (·.1) := by
  induction h with
  | nil => rfl
  | cons first _ ih => rw [List.map_cons, List.map_cons, first.1, ih]

/-- What schemas that agree ask alike is asked of all keys on either side. -/
theorem AgreeKeyed.forall_iff (h : AgreeKeyed follow onKeys l l') {P : κ → Schema → Prop}
    (hP : ∀ key s t, Agree follow (onKeys key) s t → (P key s ↔ P key t)) :
    (∀ n ∈ l, P n.1 n.2) ↔ ∀ n ∈ l', P n.1 n.2 := by
  induction h with
  | nil => simp
  | @cons a b rest rest' first _ ih =>
    rw [List.forall_mem_cons, List.forall_mem_cons, ih, hP a.1 a.2 b.2 first.2, first.1]

end Keyed

/-- The values that can stand under a key in an object of some. -/
def OnMember (on : Json → Prop) (key : String) (w : Json) : Prop :=
  ∃ members, on (.object members) ∧ (key, w) ∈ members

/-- The values that can stand under a key of a pattern. -/
def OnMatch (on : Json → Prop) (p : Matcher) (w : Json) : Prop :=
  ∃ members key, on (.object members) ∧ (key, w) ∈ members ∧ p key = true

/-- The values that can stand under any other key. -/
def OnOther (on : Json → Prop) (named : List String) (patterned : List Matcher) (w : Json) : Prop :=
  ∃ members key, on (.object members) ∧ (key, w) ∈ members ∧ isOther named patterned key = true

section Objects

variable {named named' : List (String × Schema)} {patterned patterned' : List (Matcher × Schema)}
  {place : Path} {members : Fields}

/-- Under schemas that agree members pass by name on both sides or on neither. -/
theorem AgreeKeyed.named_iff (h : AgreeKeyed follow (OnMember on) named named') (hon : on (.object members)) :
    problemsOfNamed follow named place members = [] ↔ problemsOfNamed follow named' place members = [] := by
  rw [problemsOfNamed_eq_nil_iff, problemsOfNamed_eq_nil_iff]
  refine h.forall_iff (P := fun key s => ∀ w, members.get? key = some w → s.Fits follow (place.under key) w)
    fun key s t hagree => ?_
  exact forall₂_congr fun w hw => hagree _ w ⟨members, hon, Fields.mem_of_get? hw⟩

/-- So they do by pattern. -/
theorem AgreeKeyed.patterned_iff (h : AgreeKeyed follow (OnMatch on) patterned patterned')
    (hon : on (.object members)) :
    problemsOfPatterned follow patterned place members = [] ↔
      problemsOfPatterned follow patterned' place members = [] := by
  rw [problemsOfPatterned_eq_nil_iff, problemsOfPatterned_eq_nil_iff]
  refine h.forall_iff (P := fun (p : Matcher) s => ∀ m ∈ members, p m.1 = true →
    s.Fits follow (place.under m.1) m.2) fun p s t hagree => ?_
  exact forall₃_congr fun m hm hp => hagree _ m.2 ⟨members, m.1, hon, hm, hp⟩

variable (hnamed : AgreeKeyed follow (OnMember on) named named')
  (hpatterned : AgreeKeyed follow (OnMatch on) patterned patterned')

include hnamed hpatterned

/-- What is asked of members agrees when it does on the values under each key. -/
theorem agree_object {rest rest' : Schema}
    (hrest : Agree follow (OnOther on (named.map (·.1)) (patterned.map (·.1))) rest rest') :
    Agree follow on (.object named patterned rest) (.object named' patterned' rest') := by
  intro place v hv
  cases v with
  | object members =>
    rw [fits_object, fits_object, hnamed.named_iff hv, hpatterned.patterned_iff hv, ← hnamed.keys_eq,
      ← hpatterned.keys_eq]
    refine and_congr_right fun _ => and_congr_right fun _ => forall₃_congr fun m hm hother => ?_
    exact hrest _ m.2 ⟨members, m.1, hv, hm, hother⟩
  | _ => exact iff_of_true (fits_object_of_not_object rfl) (fits_object_of_not_object rfl)

/-- So it does where others are refused. -/
theorem agree_closedObject :
    Agree follow on (closedObject named patterned) (closedObject named' patterned') := by
  intro place v hv
  cases v with
  | object members =>
    rw [fits_closedObject, fits_closedObject, hnamed.named_iff hv, hpatterned.patterned_iff hv,
      ← hnamed.keys_eq, ← hpatterned.keys_eq]
  | _ => exact iff_of_true (fits_closedObject_of_not_object rfl) (fits_closedObject_of_not_object rfl)

/-- Where every key is listed, others can be refused. -/
theorem agree_closing
    (hlisted : ∀ members, on (.object members) → ∀ m ∈ members,
      isOther (named.map (·.1)) (patterned.map (·.1)) m.1 = false) :
    Agree follow on (.all [.object named [] (.all []), .object [] patterned (.all [])])
      (closedObject named' patterned') := by
  intro place v hv
  rw [← agree_closedObject hnamed hpatterned place v hv, fits_all, List.forall_mem_cons,
    List.forall_mem_singleton]
  cases v with
  | object members =>
    have hany (place : Path) (w : Json) : (Schema.all []).Fits follow place w := by simp [fits_all]
    rw [fits_object, fits_object, fits_closedObject, problemsOfNamed, problemsOfPatterned]
    have hnone : ∀ m ∈ members, isOther (named.map (·.1)) (patterned.map (·.1)) m.1 = false := hlisted members hv
    simp only [hany, implies_true, and_true, true_and]
    exact and_congr_right fun _ => (and_iff_left hnone).symm
  | _ =>
    exact iff_of_true ⟨fits_object_of_not_object rfl, fits_object_of_not_object rfl⟩
      (fits_closedObject_of_not_object rfl)

end Objects

end Agree

end Reconcile.Schema
