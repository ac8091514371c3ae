import Reconcile.Proofs.Schema.Parts
import Reconcile.Proofs.Schema.Tighten

/-!
# Where closing changes a schema

A value holds schemas at its schema positions alone: what looks like a schema in a default or in an
enumeration is none. Closing refuses unlisted members at the schema positions where nothing is said of them
and leaves every other place as it was: `tighten_closes_schema_positions`.
-/

namespace Reconcile

namespace Schema

/-- The schemas that a schema holds, each at its place in it. -/
inductive Subschema (node : Fields) : Path → Json → Prop
  | named {keyword name : String} {subs : Fields} {t : Json}
    (maps : keyword ∈ ["properties", "patternProperties", "definitions"])
    (found : node.get? keyword = some (.object subs)) (chosen : subs.get? name = some t) :
    Subschema node [.key keyword, .key name] t
  | branch {keyword : String} {i : Nat} {branches : List Json} {t : Json}
    (combines : keyword ∈ ["allOf", "anyOf", "oneOf"]) (found : node.get? keyword = some (.array branches))
    (chosen : branches[i]? = some t) : Subschema node [.key keyword, .index i] t
  | value {keyword : String} {t : Json} (holds : keyword ∈ ["items", "additionalProperties", "not"])
    (found : node.get? keyword = some t) : Subschema node [.key keyword] t
  | item {keyword : String} {i : Nat} {schemas : List Json} {t : Json}
    (holds : keyword ∈ ["items", "additionalProperties", "not"])
    (found : node.get? keyword = some (.array schemas)) (chosen : schemas[i]? = some t) :
    Subschema node [.key keyword, .index i] t

/-- The schema positions of a value, each with what stands there. -/
inductive SchemaAt (s : Json) : Path → Json → Prop
  | root : SchemaAt s [] s
  | sub {place step : Path} {node : Fields} {t : Json} (above : SchemaAt s place (.object node))
    (holds : Subschema node step t) : SchemaAt s (place ++ step) t

/-- The places of the members that refuse others, where a schema lists properties, says nothing about others
and does not keep them. -/
def Refuses (s : Json) (place : Path) : Prop :=
  ∃ (above : Path) (node : Fields), SchemaAt s above (.object node) ∧ Closes node ∧
    place = above.under "additionalProperties"

section Positions

variable {s t u : Json} {place below : Path}

/-- A schema in another one stands at its place in it. -/
theorem Subschema.partAt_eq {node : Fields} {step : Path} (h : Subschema node step t) :
    partAt step (.object node) = some t := by
  cases h with
  | named _ found chosen | branch _ found chosen | item _ found chosen =>
    rw [partAt_key_cons, found, Option.bind_some, partAt_cons]
    simp [partAt, Json.get?, chosen]
  | value _ found => rw [partAt_key_cons, found, Option.bind_some, partAt]

/-- What a schema position is said to hold stands there. -/
theorem SchemaAt.partAt_eq (h : SchemaAt s place t) : partAt place s = some t := by
  induction h with
  | root => rfl
  | sub _ holds ih => rw [partAt_append, ih, Option.bind_some, holds.partAt_eq]

/-- The schema positions of what stands at a schema position are schema positions. -/
theorem SchemaAt.trans (h : SchemaAt s place t) (h' : SchemaAt t below u) : SchemaAt s (place ++ below) u := by
  induction h' with
  | root => rwa [List.append_nil]
  | sub _ holds ih =>
    rw [← List.append_assoc]
    exact ih.sub holds

/-- What a schema in another one refuses, that one refuses below its place. -/
theorem Refuses.under (h : SchemaAt s place t) (h' : Refuses t below) : Refuses s (place ++ below) := by
  obtain ⟨above, node, hnode, hcloses, rfl⟩ := h'
  exact ⟨place ++ above, node, h.trans hnode, hcloses, (List.append_assoc ..).symm⟩

end Positions

section Sites

variable {keyword : String}

/-- What a keyword holds schemas in, by the list that it is in. -/
theorem schemaSite_cases (keyword : String) :
    keyword ∈ ["properties", "patternProperties", "definitions"] ∧ schemaSite keyword = .map ∨
      keyword ∈ ["allOf", "anyOf", "oneOf"] ∧ schemaSite keyword = .list ∨
      keyword ∈ ["items", "additionalProperties", "not"] ∧ schemaSite keyword = .either ∨
      schemaSite keyword = .nowhere := by
  rw [schemaSite]
  split
  next hmap => exact .inl ⟨hmap, rfl⟩
  next =>
    split
    next hlist => exact .inr (.inl ⟨hlist, rfl⟩)
    next =>
      split
      next heither => exact .inr (.inr (.inl ⟨heither, rfl⟩))
      next => exact .inr (.inr (.inr rfl))

/-- These keywords hold schemas by name. -/
theorem schemaSite_eq_map_iff :
    schemaSite keyword = .map ↔ keyword ∈ ["properties", "patternProperties", "definitions"] := by
  refine ⟨fun h => ?_, fun h => if_pos h⟩
  obtain ⟨hkeyword, -⟩ | ⟨-, hsite⟩ | ⟨-, hsite⟩ | hsite := schemaSite_cases keyword
  · exact hkeyword
  all_goals cases h.symm.trans hsite

/-- These hold lists of schemas. -/
theorem schemaSite_eq_list_iff : schemaSite keyword = .list ↔ keyword ∈ ["allOf", "anyOf", "oneOf"] := by
  have hsites : ∀ k ∈ ["allOf", "anyOf", "oneOf"], schemaSite k = .list := by decide
  refine ⟨fun h => ?_, hsites keyword⟩
  obtain ⟨-, hsite⟩ | ⟨hkeyword, -⟩ | ⟨-, hsite⟩ | hsite := schemaSite_cases keyword
  case inr.inl => exact hkeyword
  all_goals cases h.symm.trans hsite

/-- These hold a schema or a list of schemas. -/
theorem schemaSite_eq_either_iff :
    schemaSite keyword = .either ↔ keyword ∈ ["items", "additionalProperties", "not"] := by
  have hsites : ∀ k ∈ ["items", "additionalProperties", "not"], schemaSite k = .either := by decide
  refine ⟨fun h => ?_, hsites keyword⟩
  obtain ⟨-, hsite⟩ | ⟨-, hsite⟩ | ⟨hkeyword, -⟩ | hsite := schemaSite_cases keyword
  case inr.inr.inl => exact hkeyword
  all_goals cases h.symm.trans hsite

end Sites

end Schema

namespace Json

open Schema

/-- Schemas by name are closed one by one. -/
theorem tightenEach_eq_map (subs : Fields) : tightenEach subs = subs.map fun m => (m.1, m.2.tighten) := by
  induction subs with
  | nil => rw [tightenEach, List.map_nil]
  | cons m rest ih => rw [tightenEach, ih, List.map_cons]

/-- The schema of a name is closed. -/
theorem get?_tightenEach (subs : Fields) (name : String) :
    Fields.get? name (tightenEach subs) = (subs.get? name).map tighten := by
  induction subs with
  | nil => rfl
  | cons m rest ih =>
    obtain ⟨k, v⟩ := m
    rw [tightenEach, Fields.get?_cons, Fields.get?_cons, ih]
    split <;> rfl

/-- What is no object is left as it is. -/
theorem tighten_of_not_object {v : Json} (h : v.isObject = false) : v.tighten = v := by
  cases v with
  | object => contradiction
  | _ =>
    rw [tighten]
    simp

/-- What was no list is none when it is closed. -/
theorem isArray_tighten {v : Json} (h : v.isArray = false) : v.tighten.isArray = false := by
  cases v with
  | object members =>
    rw [tighten]
    rfl
  | _ => rwa [tighten_of_not_object rfl]

/-- Under a keyword, the schemas of a map or of a list are closed, or the one schema that stands there; all else
stays. -/
theorem tightenUnder_cases (site : SchemaSite) (v : Json) :
    (∃ subs, site = .map ∧ v = .object subs ∧ tightenUnder site v = .object (tightenEach subs)) ∨
    (∃ items, (site = .list ∨ site = .either) ∧ v = .array items ∧
      tightenUnder site v = .array (tightenItems items)) ∨
    (site = .either ∧ v.isArray = false ∧ tightenUnder site v = v.tighten) ∨ tightenUnder site v = v := by
  cases site with
  | map =>
    cases v with
    | object subs => exact .inl ⟨subs, rfl, rfl, by rw [tightenUnder]⟩
    | _ => exact .inr (.inr (.inr (by rw [tightenUnder] <;> simp)))
  | list =>
    cases v with
    | array items => exact .inr (.inl ⟨items, .inl rfl, rfl, by rw [tightenUnder]⟩)
    | _ => exact .inr (.inr (.inr (by rw [tightenUnder] <;> simp)))
  | either =>
    cases v with
    | array items => exact .inr (.inl ⟨items, .inr rfl, rfl, by rw [tightenUnder]⟩)
    | _ => exact .inr (.inr (.inl ⟨rfl, rfl, tightenUnder_either rfl⟩))
  | nowhere => exact .inr (.inr (.inr (tightenUnder_nowhere v)))

/-- A keyword of a closed schema: what was said under it, with the schemas in it closed, or that others are
refused. -/
theorem get?_tighten_object (node : Fields) (keyword : String) :
    (Json.object node).tighten.get? keyword =
      if keyword = "additionalProperties" ∧ Closes node then some (.bool false)
      else (node.get? keyword).map (tightenUnder (schemaSite keyword)) := by
  rw [tighten, Json.get?]
  obtain ⟨hcloses, h⟩ | ⟨hopen, h⟩ := closeProperties_cases node
  · rw [h, Fields.get?_insert, get?_tightenKeywords]
    by_cases hkey : keyword = "additionalProperties"
    · rw [if_pos hkey.symm, if_pos ⟨hkey, hcloses⟩]
    · rw [if_neg (Ne.symm hkey), if_neg fun hboth => hkey hboth.1]
  · rw [h, get?_tightenKeywords, if_neg fun hboth => hopen hboth.2]

/-- What a schema says stays, with the schemas in it closed. -/
theorem get?_tighten_of_get? {node : Fields} {keyword : String} {v : Json} (hv : node.get? keyword = some v) :
    (Json.object node).tighten.get? keyword = some (tightenUnder (schemaSite keyword) v) := by
  rw [get?_tighten_object, if_neg, hv, Option.map_some]
  rintro ⟨rfl, hcloses⟩
  rw [Fields.has_eq_false_iff.mp hcloses.silent] at hv
  contradiction

/-- The schemas that a schema holds are closed with it. -/
theorem partAt_tighten_of_subschema {node : Fields} {step : Path} {t : Json} (h : Subschema node step t)
    (harray : t.isArray = false) : partAt step (Json.object node).tighten = some t.tighten := by
  cases h with
  | named maps found chosen =>
    rw [partAt, get?_tighten_of_get? found, schemaSite_eq_map_iff.mpr maps, tightenUnder, Option.bind_some,
      partAt_key_cons, get?_tightenEach, chosen]
    rfl
  | branch combines found chosen =>
    rw [partAt, get?_tighten_of_get? found, schemaSite_eq_list_iff.mpr combines, tightenUnder, Option.bind_some,
      partAt_index_cons, tightenItems_eq_map, List.getElem?_map, chosen]
    rfl
  | value holds found =>
    rw [partAt, get?_tighten_of_get? found, schemaSite_eq_either_iff.mpr holds, tightenUnder_either harray]
    rfl
  | item holds found chosen =>
    rw [partAt, get?_tighten_of_get? found, schemaSite_eq_either_iff.mpr holds, tightenUnder, Option.bind_some,
      partAt_index_cons, tightenItems_eq_map, List.getElem?_map, chosen]
    rfl

/-- At every schema position the schema is closed. -/
theorem partAt_tighten_of_schemaAt {s t : Json} {place : Path} (h : SchemaAt s place t)
    (harray : t.isArray = false) : partAt place s.tighten = some t.tighten := by
  induction h with
  | root => rfl
  | sub _ holds ih =>
    rw [partAt_append, ih rfl, Option.bind_some]
    exact partAt_tighten_of_subschema holds harray

/-- What is said under a keyword keeps its outlines when the schemas in it do. -/
theorem outlineAt_tightenUnder {node : Fields} {keyword : String} {v : Json} {place : Path}
    (hv : node.get? keyword = some v)
    (hkept : ∀ {step below : Path} {t : Json}, Subschema node step t → .key keyword :: place = step ++ below →
      outlineAt below t.tighten = outlineAt below t) :
    outlineAt place (tightenUnder (schemaSite keyword) v) = outlineAt place v := by
  obtain ⟨subs, hsite, rfl, h⟩ | ⟨items, hsite, rfl, h⟩ | ⟨hsite, -, h⟩ | h :=
    tightenUnder_cases (schemaSite keyword) v <;> rw [h]
  · rcases place with _ | ⟨name | i, below⟩
    · rfl
    · rw [outlineAt_key, outlineAt_key, Json.get?, Json.get?, get?_tightenEach]
      cases hsub : Fields.get? name subs with
      | none => rfl
      | some t => exact hkept (.named (schemaSite_eq_map_iff.mp hsite) hv hsub) rfl
    · rfl
  · rw [tightenItems_eq_map]
    rcases place with _ | ⟨name | i, below⟩
    · simp only [outlineAt, partAt, Option.map_some, outline, List.map_map, Function.comp_def]
    · rfl
    · rw [outlineAt_index, outlineAt_index, List.getElem?_map]
      cases hitem : items[i]? with
      | none => rfl
      | some t =>
        have hheld : Subschema node [.key keyword, .index i] t := hsite.elim
          (fun hlist => .branch (schemaSite_eq_list_iff.mp hlist) hv hitem)
          fun heither => .item (schemaSite_eq_either_iff.mp heither) hv hitem
        exact hkept hheld rfl
  · exact hkept (.value (schemaSite_eq_either_iff.mp hsite) hv) rfl

/-- Where nothing is refused, closing changes no outline. -/
theorem outlineAt_tighten {s : Json} {place : Path} (h : ¬Refuses s place) :
    outlineAt place s.tighten = outlineAt place s := by
  -- on the length of the place: a schema that the value holds is closed at the rest of it
  induction hlength : place.length using Nat.strongRecOn generalizing s place with
  | ind length ih =>
    cases s with
    | object node =>
      rcases place with _ | ⟨keyword | i, below⟩
      · rw [tighten]
        rfl
      · rw [outlineAt_key, outlineAt_key, get?_tighten_object, Json.get?]
        split
        next hrefused =>
          obtain ⟨rfl, hcloses⟩ := hrefused
          rw [Fields.has_eq_false_iff.mp hcloses.silent]
          cases below with
          | nil => exact absurd ⟨[], node, .root, hcloses, rfl⟩ h
          | cons step rest => rw [Option.bind_some, outlineAt, partAt_scalar rfl rfl]; rfl
        next =>
          cases hv : Fields.get? keyword node with
          | none => rfl
          | some v =>
            refine outlineAt_tightenUnder hv fun {step rest t} hsub hplace => ?_
            have hshorter : rest.length < length := by
              have hsum := congrArg List.length hplace
              cases hsub <;> simp at hsum hlength <;> omega
            refine ih _ hshorter (fun hrefuses => h ?_) rfl
            rw [hplace]
            exact hrefuses.under (SchemaAt.root.sub hsub)
      · rw [tighten]
        rfl
    | _ => rw [tighten_of_not_object rfl]

/-- A member that is put in is closed as what it is. -/
theorem tightenKeywords_insert (keyword : String) (v : Json) (node : Fields) :
    tightenKeywords (node.insert keyword v) =
      Fields.insert keyword (tightenUnder (schemaSite keyword) v) (tightenKeywords node) := by
  induction node with
  | nil => simp only [Fields.insert, tightenKeywords]
  | cons m rest ih =>
    obtain ⟨k, w⟩ := m
    rw [tightenKeywords, Fields.insert, Fields.insert]
    split
    next => rw [tightenKeywords]
    next =>
      split
      next => rw [tightenKeywords, tightenKeywords]
      next => rw [tightenKeywords, ih]

/-- A schema whose keywords are closed is closed by refusing others. -/
theorem tighten_tighten_object {node : Fields}
    (hkeywords : tightenKeywords (tightenKeywords node) = tightenKeywords node) :
    (Json.object node).tighten.tighten = (Json.object node).tighten := by
  rw [tighten, tighten]
  obtain ⟨-, h⟩ | ⟨-, h⟩ := closeProperties_cases node
  · have hagain : tightenKeywords (Fields.insert "additionalProperties" (.bool false) (tightenKeywords node)) =
        Fields.insert "additionalProperties" (.bool false) (tightenKeywords node) := by
      rw [tightenKeywords_insert, hkeywords]
      rfl
    have hspeaks : Fields.has "additionalProperties"
        (Fields.insert "additionalProperties" (.bool false) (tightenKeywords node)) = true := by
      rw [Fields.has, Fields.get?_insert, if_pos rfl]
      rfl
    rw [h, hagain, closeProperties, hspeaks]
    simp
  · rw [h, hkeywords, h]

/-- What is so of all schemas that may stand under a keyword: of the value there, of its members and its
items. -/
structure Around (P : Json → Prop) (v : Json) : Prop where
  self : P v
  members : ∀ subs, v = .object subs → ∀ m ∈ subs, P m.2
  items : ∀ items, v = .array items → ∀ t ∈ items, P t

/-- Induction over values as schemas: what holds of an object may use that it holds under all keywords. -/
@[elab_as_elim]
theorem schema_induction {P : Json → Prop} (other : ∀ v, v.isObject = false → P v)
    (object : ∀ node : Fields, (∀ m ∈ node, Around P m.2) → P (.object node)) (v : Json) : P v := by
  suffices h : Around P v from h.self
  induction v with
  | array items ih =>
    refine ⟨other _ rfl, by simp, ?_⟩
    rintro _ ⟨⟩ t ht
    exact (ih t ht).self
  | object node ih =>
    refine ⟨object node ih, ?_, by simp⟩
    rintro _ ⟨⟩ m hm
    exact (ih m hm).self
  | _ => exact ⟨other _ rfl, by simp, by simp⟩

/-- What is closed under a keyword stays as it is when the schemas in it do. -/
theorem tightenUnder_tightenUnder {v : Json} (site : SchemaSite)
    (h : Around (fun t => t.tighten.tighten = t.tighten) v) :
    tightenUnder site (tightenUnder site v) = tightenUnder site v := by
  obtain ⟨subs, rfl, rfl, hunder⟩ | ⟨items, hsite, rfl, hunder⟩ | ⟨rfl, harray, hunder⟩ | hunder :=
    tightenUnder_cases site v
  · rw [hunder, tightenUnder, tightenEach_eq_map, tightenEach_eq_map, List.map_map]
    exact congrArg Json.object
      (List.map_congr_left fun m hm => congrArg (Prod.mk m.1) (h.members subs rfl m hm))
  · have htwice : tightenItems (tightenItems items) = tightenItems items := by
      rw [tightenItems_eq_map, tightenItems_eq_map, List.map_map]
      exact List.map_congr_left (h.items items rfl)
    rcases hsite with rfl | rfl <;> rw [hunder, tightenUnder, htwice]
  · rw [hunder, tightenUnder_either (isArray_tighten harray), h.self]
  · rw [hunder, hunder]

/-- Closing twice is closing once. -/
theorem tighten_tighten (s : Json) : s.tighten.tighten = s.tighten := by
  induction s using schema_induction with
  | other v hv => rw [tighten_of_not_object hv, tighten_of_not_object hv]
  | object node ih =>
    refine tighten_tighten_object ?_
    rw [tightenKeywords_eq_map, tightenKeywords_eq_map, List.map_map]
    exact List.map_congr_left fun m hm => congrArg (Prod.mk m.1) (tightenUnder_tightenUnder _ (ih m hm))

/-- What stands under a keyword stays well formed when the schemas in it do. -/
theorem wellFormed_tightenUnder {v : Json} (hwf : v.WellFormed) (site : SchemaSite)
    (h : Around (fun t => t.WellFormed → t.tighten.WellFormed) v) : (tightenUnder site v).WellFormed := by
  obtain ⟨subs, -, rfl, hunder⟩ | ⟨items, -, rfl, hunder⟩ | ⟨-, -, hunder⟩ | hunder :=
    tightenUnder_cases site v <;> rw [hunder]
  · obtain ⟨rising, each⟩ := wellFormed_object_iff.mp hwf
    refine wellFormed_object_iff.mpr ⟨?_, fun name w hw => ?_⟩
    · rw [tightenEach_eq_map]
      exact List.pairwise_map.mpr rising
    · rw [get?_tightenEach] at hw
      obtain ⟨t, ht, rfl⟩ := Option.map_eq_some_iff.mp hw
      exact h.members subs rfl _ (Fields.mem_of_get? ht) (each name t ht)
  · cases hwf with
    | array _ each =>
      rw [tightenItems_eq_map]
      refine .array _ fun w hw => ?_
      obtain ⟨t, ht, rfl⟩ := List.mem_map.mp hw
      exact h.items items rfl t ht (each t ht)
  · exact h.self hwf
  · exact hwf

/-- A schema stays well formed when it is closed. -/
theorem wellFormed_tighten {s : Json} (hwf : s.WellFormed) : s.tighten.WellFormed := by
  induction s using schema_induction with
  | other v hv => rwa [tighten_of_not_object hv]
  | object node ih =>
    obtain ⟨rising, each⟩ := wellFormed_object_iff.mp hwf
    have hkeywords : WellFormed (.object (tightenKeywords node)) := by
      refine wellFormed_object_iff.mpr ⟨rising_tightenKeywords rising, fun keyword w hw => ?_⟩
      rw [get?_tightenKeywords] at hw
      obtain ⟨v, hv, rfl⟩ := Option.map_eq_some_iff.mp hw
      exact wellFormed_tightenUnder (each keyword v hv) _ (ih _ (Fields.mem_of_get? hv))
    rw [tighten]
    obtain ⟨-, h⟩ | ⟨-, h⟩ := closeProperties_cases node <;> rw [h]
    · exact hkeywords.insert _ (.bool false)
    · exact hkeywords

/-- A value that closing leaves as it is has no schema left to close. -/
theorem not_closes_of_tighten_eq_self {s : Json} {place : Path} {node : Fields} (hself : s.tighten = s)
    (h : SchemaAt s place (.object node)) : ¬Closes node := by
  intro hcloses
  have hnode := partAt_tighten_of_schemaAt h rfl
  rw [hself, h.partAt_eq] at hnode
  have hrefused := get?_tighten_object node "additionalProperties"
  rw [← Option.some.inj hnode, if_pos ⟨rfl, hcloses⟩, Json.get?,
    Fields.has_eq_false_iff.mp hcloses.silent] at hrefused
  contradiction

/-- Closing leaves a value as it is exactly where it adds no refusal. -/
theorem tighten_eq_self_iff {s : Json} (hwf : s.WellFormed) : s.tighten = s ↔ ∀ place, ¬Refuses s place := by
  constructor
  · rintro hself _ ⟨above, node, hnode, hcloses, rfl⟩
    exact not_closes_of_tighten_eq_self hself hnode hcloses
  · exact fun h => eq_of_outlineAt (wellFormed_tighten hwf) hwf fun place => outlineAt_tighten (h place)

/-- After closing, a schema position that lists properties and does not keep others speaks of others. Closing
adds their refusal where a schema position does not, and no other place changes; so what stands under a keyword
that holds no schemas, a default or an enumeration, stays as it is. Closing twice is closing once. -/
theorem tighten_closes_schema_positions (s : Json) :
    (∀ (place : Path) (node : Fields), SchemaAt s.tighten place (.object node) →
      node.has "properties" = true → preservesUnknown node = false → node.has "additionalProperties" = true) ∧
    (∀ place : Path, Refuses s place →
      partAt place s = none ∧ partAt place s.tighten = some (.bool false)) ∧
    (∀ place : Path, ¬Refuses s place → outlineAt place s.tighten = outlineAt place s) ∧
    (∀ (place : Path) (node : Fields) (keyword : String), SchemaAt s place (.object node) →
      keyword ∉ ["properties", "patternProperties", "definitions", "allOf", "anyOf", "oneOf", "items",
        "additionalProperties", "not"] →
      partAt (place.under keyword) s.tighten = partAt (place.under keyword) s) ∧
    s.tighten.tighten = s.tighten := by
  have hmember {place : Path} {node : Fields} (h : SchemaAt s place (.object node)) (keyword : String) :
      partAt (place.under keyword) s.tighten = (Json.object node).tighten.get? keyword ∧
        partAt (place.under keyword) s = node.get? keyword := by
    rw [partAt_under, partAt_under, partAt_tighten_of_schemaAt h rfl, h.partAt_eq]
    exact ⟨rfl, rfl⟩
  refine ⟨fun place node h hproperties hstrict => ?_, fun place h => ?_, fun place h => outlineAt_tighten h,
    fun place node keyword h hkeyword => ?_, tighten_tighten s⟩
  · by_contra hsilent
    have hcloses : Closes node := ⟨hproperties, Bool.eq_false_iff.mpr hsilent, hstrict⟩
    exact not_closes_of_tighten_eq_self (tighten_tighten s) h hcloses
  · obtain ⟨above, node, hnode, hcloses, rfl⟩ := h
    obtain ⟨hafter, hbefore⟩ := hmember hnode "additionalProperties"
    rw [hafter, hbefore, get?_tighten_object, if_pos ⟨rfl, hcloses⟩]
    exact ⟨Fields.has_eq_false_iff.mp hcloses.silent, rfl⟩
  · obtain ⟨hafter, hbefore⟩ := hmember h keyword
    have hnowhere : schemaSite keyword = .nowhere := by
      simp only [List.mem_cons, List.not_mem_nil, or_false, not_or] at hkeyword
      simp [schemaSite, hkeyword]
    rw [hafter, hbefore, get?_tighten_object, hnowhere, if_neg]
    · cases node.get? keyword <;> simp
    · rintro ⟨rfl, -⟩
      exact hkeyword (by decide)

/-- Properties that have the names of keywords are closed, a default that looks like a schema is not, nor a schema
that keeps what it does not list. -/
theorem tighten_closes_schema_positions_of_misleading_names :
    let schema (more : Fields) : Json := .object (more ++ [("properties", .object [("x", .object [])])])
    let closed : Json := schema [("additionalProperties", .bool false)]
    let free : Json :=
      .object [("properties", .object []), ("x-kubernetes-preserve-unknown-fields", .bool true)]
    let node (schema : Json) : Fields :=
      [("items", .array [schema]),
        ("properties", .object [("default", schema), ("free", free), ("properties", schema)])]
    let s : Json := .object (("default", schema []) :: node (schema []))
    let refusal : Path := [.key "properties", .key "properties", .key "additionalProperties"]
    s.tighten = .object (("additionalProperties", .bool false) :: ("default", schema []) :: node closed) ∧
      Refuses s refusal ∧ partAt refusal s = none ∧ partAt refusal s.tighten = some (.bool false) ∧
      partAt [.key "default"] s.tighten = partAt [.key "default"] s ∧ s.tighten.tighten = s.tighten := by
  intro schema closed free node s refusal
  obtain ⟨-, hrefused, -, hkept, htwice⟩ := tighten_closes_schema_positions s
  have hsub : Subschema (("default", schema []) :: node (schema [])) [.key "properties", .key "properties"]
      (schema []) := .named (by decide) rfl rfl
  have hrefuses : Refuses s refusal := ⟨_, _, SchemaAt.root.sub hsub, by decide, rfl⟩
  obtain ⟨hbefore, hafter⟩ := hrefused refusal hrefuses
  exact ⟨rfl, hrefuses, hbefore, hafter, hkept [] _ "default" .root (by decide), htwice⟩

end Json

end Reconcile
