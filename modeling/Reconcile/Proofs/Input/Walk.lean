import Reconcile.Input.Walk
import Reconcile.Proofs.Resource.Metadata

/-!
# What is found in a document

`Json.manifests` lists the objects of a value in the order in which they stand, every list of objects
replaced by its items. Where the collection succeeds it appends exactly these, whatever the path and
whatever was found before. None of them is a list of objects, so that collecting them again gives them
again.
-/

namespace Reconcile

namespace Json

mutual

/-- The objects in a value, in order; a list of objects stands for its items. -/
def manifests : Json → List Fields
  | .array items => itemsManifests items
  | .object members =>
    if isManifest members then
      if isListManifest members then manifestsUnder "items" members else [members]
    else fieldsManifests members
  | _ => []

/-- The objects in the items of an array. -/
def itemsManifests : List Json → List Fields
  | [] => []
  | v :: rest => manifests v ++ itemsManifests rest

/-- The objects in the members of an object. -/
def fieldsManifests : List (String × Json) → List Fields
  | [] => []
  | (_, v) :: rest => manifests v ++ fieldsManifests rest

/-- The objects in the member under one key. -/
def manifestsUnder (key : String) : List (String × Json) → List Fields
  | [] => []
  | (k, v) :: rest => if k = key then manifests v else manifestsUnder key rest

end

mutual

/-- No list of objects is left among the objects of a value. -/
theorem not_isListManifest_of_mem : (v : Json) → ∀ m ∈ v.manifests, isListManifest m = false
  | .null => by simp [manifests]
  | .bool b => by simp [manifests]
  | .number n => by simp [manifests]
  | .string s => by simp [manifests]
  | .array items => by
    rw [manifests]
    exact not_isListManifest_of_mem_items items
  | .object members => by
    rw [manifests]
    split
    next =>
      split
      next => exact not_isListManifest_of_mem_under "items" members
      next hlist => exact List.forall_mem_singleton.mpr (eq_false_of_ne_true hlist)
    next => exact not_isListManifest_of_mem_fields members

/-- The same holds of the items of a list. -/
theorem not_isListManifest_of_mem_items :
    (items : List Json) → ∀ m ∈ itemsManifests items, isListManifest m = false
  | [] => by simp [itemsManifests]
  | v :: rest => by
    rw [itemsManifests, List.forall_mem_append]
    exact ⟨not_isListManifest_of_mem v, not_isListManifest_of_mem_items rest⟩

/-- It holds of members. -/
theorem not_isListManifest_of_mem_fields :
    (members : Fields) → ∀ m ∈ fieldsManifests members, isListManifest m = false
  | [] => by simp [fieldsManifests]
  | (_, v) :: rest => by
    rw [fieldsManifests, List.forall_mem_append]
    exact ⟨not_isListManifest_of_mem v, not_isListManifest_of_mem_fields rest⟩

/-- It holds of what is under one key. -/
theorem not_isListManifest_of_mem_under (key : String) :
    (members : Fields) → ∀ m ∈ manifestsUnder key members, isListManifest m = false
  | [] => by simp [manifestsUnder]
  | (k, v) :: rest => by
    rw [manifestsUnder]
    split
    · exact not_isListManifest_of_mem v
    · exact not_isListManifest_of_mem_under key rest

end

/-- One step after another succeeds only if both do. -/
theorem exists_ok_of_bind {α β : Type} {x : Except ModelError α} {f : α → Except ModelError β} {b : β}
    (h : x >>= f = .ok b) : ∃ a, x = .ok a ∧ f a = .ok b := by
  cases x with
  | error e => cases h
  | ok a => exact ⟨a, rfl, h⟩

/-- A collection that, from whatever path and with whatever found before, appends the objects with
these members. -/
def Appends (manifests : List Fields)
    (collection : String → List Resource → Except ModelError (List Resource)) : Prop :=
  ∃ objects : List Resource, objects.map (·.fields) = manifests ∧
    ∀ path found, collection path found = .ok (found ++ objects)

/-- A walk of nothing appends nothing. -/
theorem appends_nil : Appends [] fun _ found => .ok found :=
  ⟨[], rfl, fun _ found => by rw [List.append_nil]⟩

/-- One collection after another appends what both do. -/
theorem Appends.bind {first later : String → List Resource → Except ModelError (List Resource)}
    {manifests others : List Fields} (hfirst : Appends manifests first) (hlater : Appends others later)
    (place : String → String) :
    Appends (manifests ++ others) fun path found => first (place path) found >>= later path := by
  obtain ⟨objects, hobjects, hfirst⟩ := hfirst
  obtain ⟨more, hmore, hlater⟩ := hlater
  refine ⟨objects ++ more, by rw [List.map_append, hobjects, hmore], fun path found => ?_⟩
  dsimp only
  rw [hfirst, ← List.append_assoc]
  exact hlater path _

/-- An object that is accepted is appended whole. -/
theorem appends_ofFields {members : Fields} {r : Resource} (h : Resource.ofFields members = .ok r) :
    Appends [members] fun _ found => do return found ++ [← Resource.ofFields members] := by
  have hfields : r.toJson = .object members := Resource.toJson_of_ofJson h
  refine ⟨[r], ?_, fun _ found => by rw [h]; rfl⟩
  exact congrArg (fun v => [v]) (Json.object.inj hfields)

mutual

/-- A collection that succeeds once appends the objects of the value always. -/
theorem appends_of_collect {path : String} {found out : List Resource} : (v : Json) →
    collect path v found = .ok out → Appends v.manifests fun path found => collect path v found
  | .null => fun _ => by simpa only [collect, manifests] using appends_nil
  | .bool b => fun h => by simp [collect] at h
  | .number n => fun h => by simp [collect] at h
  | .string s => fun h => by simp [collect] at h
  | .array items => fun h => by
    simp only [collect, manifests] at h ⊢
    exact appends_of_collectItems items h
  | .object members => fun h => by
    simp only [collect, manifests] at h ⊢
    split at h
    next hmanifest =>
      split at h
      next hlist =>
        simp only [if_pos hmanifest, if_pos hlist]
        obtain ⟨objects, hobjects, happends⟩ := appends_of_collectUnder "items" members h
        exact ⟨objects, hobjects, fun path found => happends _ _⟩
      next hlist =>
        simp only [if_pos hmanifest, if_neg hlist]
        obtain ⟨r, hr, -⟩ := exists_ok_of_bind h
        exact appends_ofFields hr
    next hmanifest =>
      simp only [if_neg hmanifest]
      exact appends_of_collectFields members h

/-- A walk through items appends the manifests in them. -/
theorem appends_of_collectItems {path : String} {index : Nat} {found out : List Resource} :
    (items : List Json) → collectItems path index items found = .ok out →
      Appends (itemsManifests items) fun path found => collectItems path index items found
  | [] => fun h => by simpa only [collectItems, itemsManifests] using appends_nil
  | v :: rest => fun h => by
    simp only [collectItems, itemsManifests] at h ⊢
    obtain ⟨between, hfirst, hrest⟩ := exists_ok_of_bind h
    exact (appends_of_collect v hfirst).bind (appends_of_collectItems rest hrest) _

/-- A walk through members appends the manifests in them. -/
theorem appends_of_collectFields {path : String} {found out : List Resource} :
    (members : Fields) → collectFields path members found = .ok out →
      Appends (fieldsManifests members) fun path found => collectFields path members found
  | [] => fun h => by simpa only [collectFields, fieldsManifests] using appends_nil
  | (k, v) :: rest => fun h => by
    simp only [collectFields, fieldsManifests] at h ⊢
    obtain ⟨between, hfirst, hrest⟩ := exists_ok_of_bind h
    exact (appends_of_collect v hfirst).bind (appends_of_collectFields rest hrest) _

/-- A walk under one key appends the manifests there. -/
theorem appends_of_collectUnder (key : String) {path : String} {found out : List Resource} :
    (members : Fields) → collectUnder key path members found = .ok out →
      Appends (manifestsUnder key members) fun path found => collectUnder key path members found
  | [] => fun h => by simpa only [collectUnder, manifestsUnder] using appends_nil
  | (k, v) :: rest => fun h => by
    simp only [collectUnder, manifestsUnder] at h ⊢
    by_cases hk : k = key
    · simp only [if_pos hk] at h ⊢
      exact appends_of_collect v h
    · simp only [if_neg hk] at h ⊢
      exact appends_of_collectUnder key rest h

end

/-- Every resource has what an object of its own has. -/
theorem isManifest_fields (r : Resource) : isManifest r.fields = true := by
  have hhas {key : String} (h : r.fields.hasText key = true) : r.fields.has key = true := by
    obtain ⟨s, hs, -⟩ := Fields.hasText_iff.mp h
    exact Fields.has_iff.mpr ⟨_, hs⟩
  rw [isManifest, hhas r.complete.kind, hhas r.complete.apiVersion, Bool.and_true]

/-- A resource whose kind ends like that of a list has no items, unless it is a list. -/
theorem array?_items_of_not_isListManifest {r : Resource} (hlist : isListManifest r.fields = false)
    (hkind : "List".toList <:+ r.kind.toList) : r.fields.array? "items" = none := by
  obtain ⟨kind, hmember, -⟩ := Fields.hasText_iff.mp r.complete.kind
  have hstring : r.fields.string? "kind" = some kind := by
    rw [Fields.string?_eq, hmember]
    rfl
  rw [Resource.kind, hstring, Option.getD_some] at hkind
  have hends : "List".toList.isSuffixOf kind.toList = true := List.isSuffixOf_iff_suffix.mpr hkind
  simpa only [isListManifest, hstring, Option.any_some, hends, Bool.true_and, Option.isSome_eq_false_iff,
    Option.isNone_iff_eq_none] using hlist

/-- Objects of their own are collected as they are. -/
theorem collect_toJson {r : Resource} (hlist : isListManifest r.fields = false) (path : String)
    (found : List Resource) : collect path r.toJson found = .ok (found ++ [r]) := by
  have hfields : Resource.ofFields r.fields = .ok r := Resource.ofJson_toJson r
  rw [Resource.toJson, collect, if_pos (isManifest_fields r), hlist, if_neg Bool.false_ne_true, hfields]
  rfl

/-- Objects that are no lists are taken as they are. -/
theorem collectItems_toJson {objects : List Resource}
    (hlist : ∀ r ∈ objects, isListManifest r.fields = false) (path : String) (index : Nat)
    (found : List Resource) :
    collectItems path index (objects.map Resource.toJson) found = .ok (found ++ objects) := by
  induction objects generalizing index found with
  | nil => rw [List.map_nil, collectItems, List.append_nil]
  | cons r rest ih =>
    rw [List.map_cons, collectItems, collect_toJson (hlist r List.mem_cons_self)]
    have hrest := ih (fun x hx => hlist x (List.mem_cons_of_mem _ hx)) (index + 1) (found ++ [r])
    rw [List.append_assoc, List.singleton_append] at hrest
    exact hrest

/-- A collection that succeeds appends the objects of the value, each list of them replaced by its
items, and does so from every path and with whatever was found before. No list of objects is among
them, and the array of them is collected as they are. -/
theorem collect_stable {path : String} {v : Json} {found out : List Resource}
    (h : v.collect path found = .ok out) :
    ∃ objects : List Resource, out = found ++ objects ∧ objects.map (·.fields) = v.manifests ∧
      (∀ path found, v.collect path found = .ok (found ++ objects)) ∧
      (∀ r ∈ objects, "List".toList <:+ r.kind.toList → r.fields.array? "items" = none) ∧
      ∀ path found, (Json.array (objects.map Resource.toJson)).collect path found = .ok (found ++ objects) := by
  obtain ⟨objects, hobjects, happends⟩ := appends_of_collect v h
  have hout : out = found ++ objects := Except.ok.inj (h.symm.trans (happends path found))
  have hsingle : ∀ r ∈ objects, isListManifest r.fields = false := fun r hr =>
    not_isListManifest_of_mem v r.fields (hobjects ▸ List.mem_map_of_mem hr)
  refine ⟨objects, hout, hobjects, happends,
    fun r hr => array?_items_of_not_isListManifest (hsingle r hr), fun path found => ?_⟩
  rw [collect]
  exact collectItems_toJson hsingle path 0 found

/-- Lists within a list and within a map are flattened at once; what only has the kind of a list is an
object like any other. -/
theorem collect_stable_of_nested_lists :
    let object (kind : String) (more : Fields) : Fields :=
      [("apiVersion", .string "v1")] ++ more ++
        [("kind", .string kind), ("metadata", .object [("name", .string "a")])]
    let listOf (items : List Json) : Json :=
      .object [("apiVersion", .string "v1"), ("items", .array items), ("kind", .string "List")]
    let first : Resource := ⟨object "Namespace" [], by decide, by decide, by decide⟩
    let pod : Resource := ⟨object "Pod" [], by decide, by decide, by decide⟩
    let taskList : Resource := ⟨object "TaskList" [("items", .string "none")], by decide, by decide, by decide⟩
    let document : Json :=
      .object [("jobs", .array [.null, taskList.toJson]), ("pods", listOf [listOf [pod.toJson], .array []])]
    document.collect "$" [first] = .ok [first, taskList, pod] ∧
      (Json.array [taskList.toJson, pod.toJson]).collect "$" [] = .ok [taskList, pod] := by
  intro object listOf first pod taskList document
  have hdocument : document.collect "$" [first] = .ok [first, taskList, pod] := rfl
  obtain ⟨objects, hout, -, -, -, hagain⟩ := collect_stable hdocument
  obtain rfl : [taskList, pod] = objects := (List.cons.inj hout).2
  exact ⟨hdocument, hagain "$" []⟩

end Json

end Reconcile
