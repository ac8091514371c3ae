import Reconcile.Pattern.Language
import Reconcile.Proofs.Schema.Applies
import Reconcile.Proofs.Schema.Reading

/-!
# What closing a schema changes

Closing refuses the members that a schema with properties does not list. As every schema is closed by
itself, each closed schema that applies to an object has to list all of its members, the branches of
combinators included. For values of which this holds closing changes nothing: `valid_tighten_iff`. It is
not enough that some schema lists a member: `tighten_refuses_members_of_other_branches`.
-/

namespace Reconcile

open Schema

section Tightened

namespace Json

/-- Where no schemas stand nothing is closed. -/
@[simp] theorem tightenUnder_nowhere (v : Json) : tightenUnder .nowhere v = v := by
  cases v <;> simp [tightenUnder]

/-- The schemas of a list are closed one by one. -/
theorem tightenItems_eq_map (items : List Json) : tightenItems items = items.map tighten := by
  induction items with
  | nil => rw [tightenItems, List.map_nil]
  | cons v rest ih => rw [tightenItems, ih, List.map_cons]

/-- What stands under the keywords is closed one by one. -/
theorem tightenKeywords_eq_map (node : Fields) :
    tightenKeywords node = node.map fun m => (m.1, tightenUnder (schemaSite m.1) m.2) := by
  induction node with
  | nil => rw [tightenKeywords, List.map_nil]
  | cons m rest ih => rw [tightenKeywords, ih, List.map_cons]

/-- The schemas under each keyword are closed. -/
theorem get?_tightenKeywords (node : Fields) (keyword : String) :
    Fields.get? keyword (tightenKeywords node) =
      (node.get? keyword).map (tightenUnder (schemaSite keyword)) := by
  rw [tightenKeywords_eq_map]
  induction node with
  | nil => rfl
  | cons m rest ih =>
    obtain ⟨k, v⟩ := m
    rw [List.map_cons, Fields.get?_cons, Fields.get?_cons, ih]
    by_cases hk : k = keyword
    · rw [if_pos hk, if_pos hk, Option.map_some, hk]
    · rw [if_neg hk, if_neg hk]

/-- Keywords stay in order. -/
theorem rising_tightenKeywords {node : Fields} (rising : node.Rising) : Fields.Rising (tightenKeywords node) := by
  rw [tightenKeywords_eq_map]
  exact List.pairwise_map.mpr rising

/-- Under a keyword that holds a schema or a list of schemas, what is no array is closed as a schema. -/
theorem tightenUnder_either {v : Json} (h : v.isArray = false) : tightenUnder .either v = v.tighten := by
  cases v with
  | array => contradiction
  | object members => rw [tightenUnder, tighten]
  | null | bool | number | string => rw [tightenUnder, tighten] <;> simp

end Json

open Json (tighten tightenKeywords tightenUnder tightenItems tightenEach)

/-- A schema with properties that says nothing about others refuses these; any other is left as it is. -/
theorem closeProperties_cases (node : Fields) :
    (Closes node ∧ closeProperties (tightenKeywords node) =
      Fields.insert "additionalProperties" (.bool false) (tightenKeywords node)) ∨
    ¬Closes node ∧ closeProperties (tightenKeywords node) = tightenKeywords node := by
  have hhas (key : String) : Fields.has key (tightenKeywords node) = node.has key := by
    rw [Fields.has, Fields.has, Json.get?_tightenKeywords, Option.isSome_map]
  have hstrict : preservesUnknown (tightenKeywords node) = preservesUnknown node := by
    rw [preservesUnknown, preservesUnknown, Fields.bool?, Fields.bool?, Json.get?_tightenKeywords,
      show schemaSite "x-kubernetes-preserve-unknown-fields" = .nowhere by decide]
    cases node.get? "x-kubernetes-preserve-unknown-fields" <;> simp
  rw [closeProperties, hhas, hhas, hstrict]
  by_cases hcloses : Closes node
  · exact .inl ⟨hcloses, by simp [hcloses.properties, hcloses.silent, hcloses.strict]⟩
  · refine .inr ⟨hcloses, if_neg fun h => hcloses ?_⟩
    simp only [Bool.and_eq_true, Bool.not_eq_true'] at h
    exact ⟨h.1.1, h.1.2, h.2⟩

end Tightened

namespace Schema

open Json (tighten tightenKeywords tightenUnder tightenItems tightenEach)

section Closed

variable {node node' : Fields}

/-- Two keywords are read as schemas by name. -/
theorem eq_of_reading_map {keyword : String} (h : reading keyword = .map) :
    keyword = "properties" ∨ keyword = "patternProperties" := by
  rw [reading] at h
  split at h
  · contradiction
  split at h
  · contradiction
  split at h
  next hmem => simpa [or_comm] using hmem
  next =>
    split at h
    · contradiction
    · split at h <;> contradiction

/-- Two objects of keywords of which the second has the schemas under all keywords closed. Whether it
refuses other properties is left open. -/
def ClosedBelow (node node' : Fields) : Prop := ∀ keyword, keyword ≠ "additionalProperties" →
  node'.get? keyword = (node.get? keyword).map (tightenUnder (schemaSite keyword))

/-- A keyword that holds no schemas to be closed is left as it is. -/
theorem get?_of_nowhere (hclosed : ClosedBelow node node') {keyword : String}
    (hsite : schemaSite keyword = .nowhere) :
    node'.get? keyword = node.get? keyword := by
  have hne : keyword ≠ "additionalProperties" := by
    rintro rfl
    exact absurd hsite (by decide)
  rw [hclosed keyword hne, hsite]
  cases node.get? keyword <;> simp

/-- The keywords that are read together. -/
def memberKeywords : List String := ["properties", "patternProperties", "additionalProperties"]

/-- What a list of keywords is asked is asked of those that are read together and of all others. -/
theorem forall_keywords_iff {Q : String → Json → Prop} :
    (∀ keyword v, node.get? keyword = some v → Q keyword v) ↔
      ((∀ v, node.get? "properties" = some v → Q "properties" v) ∧
        ∀ v, node.get? "patternProperties" = some v → Q "patternProperties" v) ∧
      (∀ v, node.get? "additionalProperties" = some v → Q "additionalProperties" v) ∧
      ∀ keyword ∉ memberKeywords, ∀ v, node.get? keyword = some v → Q keyword v := by
  refine ⟨fun h => ⟨⟨fun v => h _ v, fun v => h _ v⟩, fun v => h _ v, fun keyword _ v => h keyword v⟩, ?_⟩
  rintro ⟨⟨hproperties, hpatterns⟩, hadditional, hother⟩ keyword v hv
  by_cases hmember : keyword ∈ memberKeywords
  · simp only [memberKeywords, List.mem_cons, List.not_mem_nil, or_false] at hmember
    rcases hmember with rfl | rfl | rfl
    · exact hproperties v hv
    · exact hpatterns v hv
    · exact hadditional v hv
  · exact hother keyword hmember v hv

end Closed

section Kept

variable [PatternLanguage] (follow : String → Check)

/-- Closing keeps what a schema asks of values that are declared. -/
def Kept (s : Json) : Prop := ∀ place, Alike (Agree follow (Declared s)) (read place s) (read place s.tighten)

/-- Closing keeps what the schemas under all keywords ask. -/
structure KeptBelow (node : Fields) : Prop where
  own : ∀ {keyword v}, node.get? keyword = some v → Kept follow v
  member : ∀ {keyword subs}, node.get? keyword = some (.object subs) → ∀ m ∈ subs, Kept follow m.2
  item : ∀ {keyword items}, node.get? keyword = some (.array items) → ∀ s ∈ items, Kept follow s

variable {follow}

/-- A list of schemas that are kept is read alike once they are closed. -/
theorem alike_readList {on : Nat → Json → Prop} {items : List Json} {i : Nat} (place : Path)
    (hkept : ∀ s ∈ items, Kept follow s)
    (hon : ∀ j s, items[j]? = some s → ∀ w, on (i + j) w → Declared s w) :
    Alike (AgreeInTurn follow on i) (readList place i items) (readList place i (tightenItems items)) := by
  induction items generalizing i with
  | nil =>
    rw [tightenItems, readList]
    exact .ok (.nil i)
  | cons s rest ih =>
    rw [List.forall_mem_cons] at hkept
    rw [tightenItems, readList, readList]
    refine (hkept.1 (place.item i)).bind fun a b hagree => ?_
    have hrest := @ih (i + 1) hkept.2 fun j t ht w hw =>
      hon (j + 1) t (by simpa using ht) w (by rwa [Nat.add_assoc, Nat.add_comm 1] at hw)
    exact hrest.map fun _ _ hlater => .cons (hagree.mono fun w hw => hon 0 s rfl w hw) hlater

/-- So are schemas by name. -/
theorem alike_readMap {on : String → Json → Prop} {subs : Fields} (place : Path)
    (hkept : ∀ m ∈ subs, Kept follow m.2) (hon : ∀ m ∈ subs, ∀ w, on m.1 w → Declared m.2 w) :
    Alike (AgreeKeyed follow on) (readMap place subs) (readMap place (tightenEach subs)) := by
  induction subs with
  | nil =>
    rw [tightenEach, readMap]
    exact .ok .nil
  | cons m rest ih =>
    obtain ⟨name, s⟩ := m
    rw [List.forall_mem_cons] at hkept hon
    rw [tightenEach, readMap, readMap]
    refine (hkept.1 (place.under name)).bind fun a b hagree => ?_
    exact (ih hkept.2 hon.2).map fun _ _ hlater => .cons ⟨rfl, hagree.mono hon.1⟩ hlater

/-- Schemas by name are read under their names. -/
theorem keys_readMap {place : Path} {subs : Fields} {named : List (String × Schema)}
    (h : readMap place subs = .ok named) : named.map (·.1) = subs.keys := by
  induction subs generalizing named with
  | nil =>
    rw [readMap, Except.ok.injEq] at h
    rw [← h]
    rfl
  | cons m rest ih =>
    obtain ⟨name, s⟩ := m
    rw [readMap] at h
    cases hs : read (place.under name) s with
    | error e => simp [hs, bind, Except.bind] at h
    | ok t =>
      cases hrest : readMap place rest with
      | error e => simp [hs, hrest, bind, Except.bind] at h
      | ok later =>
        simp only [hs, hrest, bind, Except.bind, pure, Except.pure, Except.ok.injEq] at h
        rw [← h, List.map_cons, ih hrest]
        rfl

section Keywords

variable {node node' : Fields} {place : Path}

/-- The schemas by name under a keyword. -/
theorem mapUnder_readParts {keyword : String} (h : keyword = "properties" ∨ keyword = "patternProperties") :
    mapUnder keyword (readParts place node) =
      match node.get? keyword with
      | some (.object subs) => readMap (place.under keyword) subs
      | some _ => .error unusable
      | none => .ok [] := by
  have hreading : reading keyword = .map := by rcases h with rfl | rfl <;> rfl
  rw [mapUnder, find?_readParts]
  cases node.get? keyword with
  | none => rfl
  | some v => cases v <;> simp [readPart, hreading]

variable (hclosed : ClosedBelow node node')

include hclosed

/-- A condition and its branches are left as they are. -/
theorem readCondition_eq (s : Except Problem Schema) :
    readCondition (readParts place node') s = readCondition (readParts place node) s := by
  rw [readCondition, readCondition]
  simp only [find?_readParts, get?_of_nowhere hclosed (show schemaSite "then" = .nowhere by decide),
    get?_of_nowhere hclosed (show schemaSite "else" = .nowhere by decide)]

/-- How many items have schemas of their own stays the same. -/
theorem readItemsAfter_eq (v : Json) (s : Except Problem Schema) :
    readItemsAfter place (readParts place node') v s = readItemsAfter place (readParts place node) v s := by
  rw [readItemsAfter, readItemsAfter, find?_readParts, find?_readParts, hclosed "items" (by decide),
    show schemaSite "items" = .either by decide]
  cases node.get? "items" with
  | none => rfl
  | some items => cases items <;> simp [tightenUnder, Json.tightenItems_eq_map]

/-- A keyword that holds no schemas to be closed asks for the same as before. -/
theorem ask_of_nowhere {keyword : String} (hsite : schemaSite keyword = .nowhere) (v : Json) :
    ask place node' keyword v = ask place node keyword v := by
  rw [ask, ask]
  cases readPart place keyword v with
  | single s =>
    simp only [readKeyword]
    split
    · exact absurd hsite (by decide)
    · exact readItemsAfter_eq hclosed v s
    · exact readCondition_eq hclosed s
    all_goals rfl
  | listed l => rfl
  | mapped m =>
    simp only [readKeyword]
    split
    · exact absurd hsite (by decide)
    · exact absurd hsite (by decide)
    · rfl
  | plain =>
    simp only [readKeyword]
    split
    · rfl
    · rfl
    next hreading =>
      obtain rfl | rfl := eq_of_reading_map hreading <;> exact absurd hsite (by decide)
    next => rfl

end Keywords

section Combined

variable {node : Fields} {place : Path} {v : Json}

/-- Where one schema stands, or a list of them that is none. -/
theorem alike_read_either (hv : Kept follow v) (place : Path) :
    Alike (Agree follow (Declared v)) (read place v) (read place (tightenUnder .either v)) := by
  cases v with
  | array items =>
    rw [tightenUnder, read, read]
    · exact .error _ _
    all_goals simp
  | _ =>
    rw [Json.tightenUnder_either rfl]
    exact hv place

variable (node' : Fields) (below : KeptBelow follow node)

include below

/-- A combinator of schemas asks the same of declared values. -/
theorem alike_ask_combined {keyword : String} (h : keyword ∈ ["allOf", "anyOf", "oneOf"])
    (hv : node.get? keyword = some v) :
    Alike (AgreeWhole follow (Declared (.object node))) (ask place node keyword v)
      (ask place node' keyword (tightenUnder .list v)) := by
  have hreading : reading keyword = .list := by
    simp only [List.mem_cons, List.not_mem_nil, or_false] at h
    rcases h with rfl | rfl | rfl <;> rfl
  cases v with
  | array items =>
    have hlist : Alike (AgreeInTurn follow (fun _ => Declared (.object node)) 0)
        (readList (place.under keyword) 0 items) (readList (place.under keyword) 0 (tightenItems items)) :=
      alike_readList _ (below.item hv) fun j s hs w hw =>
        hw.part (.branch .root h hv (List.mem_of_getElem? hs))
    simp only [List.mem_cons, List.not_mem_nil, or_false] at h
    simp only [ask, readPart, hreading, tightenUnder]
    rcases h with rfl | rfl | rfl
    · exact hlist.map fun _ _ hagree => hagree.choices.1.single
    · exact hlist.map fun _ _ hagree => hagree.choices.2.1.single
    · exact hlist.map fun _ _ hagree => hagree.choices.2.2.single
  | _ =>
    simp only [ask, readPart, hreading, readKeyword, tightenUnder]
    exact .error _ _

/-- What is excluded is the same among declared values. -/
theorem alike_ask_not (hv : node.get? "not" = some v) :
    Alike (AgreeWhole follow (Declared (.object node))) (ask place node "not" v)
      (ask place node' "not" (tightenUnder .either v)) := by
  have hread := alike_read_either (below.own hv) (place.under "not")
  exact hread.map fun s t hagree =>
    ((hagree.mono fun w hw => hw.part (.excluded .root hv)).not v (tightenUnder .either v)).single

/-- What is asked of items is the same for declared ones. -/
theorem alike_ask_items (hv : node.get? "items" = some v) :
    Alike (AgreeWhole follow (Declared (.object node))) (ask place node "items" v)
      (ask place node' "items" (tightenUnder .either v)) := by
  have heach : Alike (AgreeWhole follow (Declared (.object node)))
      (do return [.array (← read (place.under "items") v)])
      (do return [.array (← read (place.under "items") (tightenUnder .either v))]) := by
    refine (alike_read_either (below.own hv) _).map fun s t hagree => (hagree.mono ?_).array.single
    rintro w ⟨items, hdeclared, hw⟩
    obtain ⟨i, hi⟩ := List.mem_iff_getElem?.mp hw
    exact hdeclared.part (.item .root hv hi)
  cases v with
  | array schemas =>
    have hlist : Alike (AgreeInTurn follow
        (fun i w => ∃ items, Declared (.object node) (.array items) ∧ items[i]? = some w) 0)
        (readList (place.under "items") 0 schemas) (readList (place.under "items") 0 (tightenItems schemas)) := by
      refine alike_readList _ (below.item hv) fun j s hs w => ?_
      rintro ⟨items, hdeclared, hw⟩
      exact hdeclared.part (.inTurn .root hv hs (by rwa [Nat.zero_add] at hw))
    rw [tightenUnder]
    exact hlist.map fun _ _ hagree => hagree.itemsInTurn.single
  | object members =>
    rw [tightenUnder] at heach ⊢
    exact heach
  | bool b =>
    cases b with
    | true => exact .ok (.refl _ _)
    | false =>
      rw [tightenUnder] at heach ⊢
      · exact heach
      all_goals simp
  | null | number | string => exact .ok (.refl _ _)

end Combined

section Members

variable {node node' : Fields} {place : Path} {v : Json}

/-- Whether others than the listed members are spoken of. -/
theorem closesMembers_readParts : closesMembers (readParts place node) =
    match node.get? "additionalProperties" with
    | some v => v == .bool false || v.isObject
    | none => false := by
  rw [closesMembers, find?_readParts]
  cases node.get? "additionalProperties" <;> rfl

/-- Where they are, the listed members are read together with them. -/
theorem ask_of_closesMembers (h : closesMembers (readParts place node) = true) {keyword : String}
    (hkeyword : keyword = "properties" ∨ keyword = "patternProperties") (v : Json) :
    ask place node keyword v = .ok [] := by
  rcases hkeyword with rfl | rfl <;> cases v <;> simp only [ask, readKeyword] <;> exact if_pos h

/-- Where they are not, they are read by themselves. -/
theorem yields_ask_properties (h : closesMembers (readParts place node) = false)
    (hv : node.get? "properties" = some v) {P : Schema → Prop} :
    Yields P (ask place node "properties" v) ↔
      Yields P (do return [.object (← mapUnder "properties" (readParts place node)) [] (.all [])]) := by
  have hopen : ¬closesMembers (readParts place node) = true := by simp [h]
  rw [mapUnder_readParts (.inl rfl), hv]
  cases v with
  | object subs => exact iff_of_eq (congrArg _ (if_neg hopen))
  | _ =>
    refine iff_of_false ?_ yields_error
    show ¬Yields P (if closesMembers (readParts place node) = true then _ else _)
    rw [if_neg hopen]
    exact yields_error

/-- So are the schemas by pattern. -/
theorem yields_ask_patternProperties (h : closesMembers (readParts place node) = false)
    (hv : node.get? "patternProperties" = some v) {P : Schema → Prop} :
    Yields P (ask place node "patternProperties" v) ↔
      Yields P (do return [.object [] (← patternsUnder place (readParts place node)) (.all [])]) := by
  have hopen : ¬closesMembers (readParts place node) = true := by simp [h]
  cases v with
  | object subs => exact iff_of_eq (congrArg _ (if_neg hopen))
  | _ =>
    refine iff_of_false ?_ ?_
    · show ¬Yields P (if closesMembers (readParts place node) = true then _ else _)
      rw [if_neg hopen]
      exact yields_error
    · rw [patternsUnder, mapUnder_readParts (.inr rfl), hv]
      exact yields_error

/-- A schema under the text of a pattern, under the pattern. -/
def readPatterned (place : Path) (m : String × Schema) : Except Problem (Matcher × Schema) := do
  return (← readPattern .memberNames (place.under "patternProperties") m.1 (.string m.1), m.2)

/-- A schema is read under a pattern when its text is one. -/
theorem readPatterned_eq_ok_iff {m : String × Schema} {n : Matcher × Schema} :
    readPatterned place m = .ok n ↔ PatternLanguage.parse? .memberNames m.1 = some n.1 ∧ m.2 = n.2 := by
  rw [readPatterned, readPattern]
  cases PatternLanguage.parse? .memberNames m.1 <;> simp [bind, Except.bind, pure, Except.pure, Prod.ext_iff]

/-- The schemas by pattern are read by name first, and then their patterns. -/
theorem patternsUnder_eq (place : Path) (node : Fields) :
    patternsUnder place (readParts place node) =
      mapUnder "patternProperties" (readParts place node) >>= fun named => named.mapM (readPatterned place) := rfl

/-- Where members are listed, all others are refused together with them. -/
theorem ask_additionalProperties_false (place : Path) (node : Fields) :
    ask place node "additionalProperties" (.bool false) =
      if node.has "properties" || node.has "patternProperties" then do
        let patterns ← patternsUnder place (readParts place node)
        return [.closedObject (← mapUnder "properties" (readParts place node)) patterns]
      else .ok [.noMembers] := by
  have hlisted : ((readParts place node).any fun part =>
      part.1 == "properties" || part.1 == "patternProperties") =
        (node.has "properties" || node.has "patternProperties") := by
    rw [readParts_eq_map, List.any_map, Bool.eq_iff_iff]
    simp only [List.any_eq_true, Function.comp_apply, Bool.or_eq_true, beq_iff_eq, ← Fields.mem_keys_iff,
      Fields.keys, List.mem_map]
    grind
  rw [← hlisted]
  rfl

/-- The patterns under a keyword are those of its texts. -/
theorem mem_patternsUnder {patterned : List (Matcher × Schema)}
    (h : patternsUnder place (readParts place node) = .ok patterned) (p : Matcher) :
    p ∈ patterned.map (·.1) ↔ ∃ subs, node.get? "patternProperties" = some (.object subs) ∧
      ∃ text ∈ Fields.keys subs, PatternLanguage.parse? .memberNames text = some p := by
  rw [patternsUnder_eq, mapUnder_readParts (.inr rfl)] at h
  cases hv : node.get? "patternProperties" with
  | none =>
    rw [hv] at h
    obtain rfl : [] = patterned := Except.ok.inj h
    simp
  | some v =>
    rw [hv] at h
    cases v with
    | object subs =>
      dsimp only at h
      cases hmap : readMap (place.under "patternProperties") subs with
      | error e => simp [hmap, bind, Except.bind] at h
      | ok named =>
        rw [hmap] at h
        have hturn : List.Forall₂ (fun m n => readPatterned place m = .ok n) named patterned :=
          forall₂_of_mapM h
        have hmem : p ∈ patterned.map (·.1) ↔
            ∃ text ∈ named.map (·.1), PatternLanguage.parse? .memberNames text = some p := by
          clear h hmap
          induction hturn with
          | nil => simp
          | @cons m n rest rest' hmn _ ih =>
            rw [List.map_cons, List.map_cons, List.mem_cons, List.exists_mem_cons_iff, ih,
              (readPatterned_eq_ok_iff.mp hmn).1, Option.some.injEq, eq_comm]
        rw [hmem, keys_readMap hmap]
        simp
    | _ => simp [bind, Except.bind] at h

/-- The members that are not listed are the others. -/
theorem isOther_iff {named : List (String × Schema)} {patterned : List (Matcher × Schema)}
    (hnamed : mapUnder "properties" (readParts place node) = .ok named)
    (hpatterned : patternsUnder place (readParts place node) = .ok patterned) (key : String) :
    isOther (named.map (·.1)) (patterned.map (·.1)) key = true ↔ ¬Lists node key := by
  have hkeys : key ∈ named.map (·.1) ↔
      ∃ subs, node.get? "properties" = some (.object subs) ∧ key ∈ Fields.keys subs := by
    rw [mapUnder_readParts (.inl rfl)] at hnamed
    cases hv : node.get? "properties" with
    | none =>
      rw [hv] at hnamed
      obtain rfl : [] = named := Except.ok.inj hnamed
      simp
    | some v =>
      rw [hv] at hnamed
      cases v with
      | object subs =>
        rw [keys_readMap hnamed]
        simp
      | _ => contradiction
  have hpatterns : (∃ p ∈ patterned.map (·.1), p key = true) ↔
      ∃ subs, node.get? "patternProperties" = some (.object subs) ∧
        ∃ text ∈ Fields.keys subs, ∃ p, PatternLanguage.parse? .memberNames text = some p ∧ p key = true := by
    constructor
    · rintro ⟨p, hp, hoccurs⟩
      obtain ⟨subs, hsubs, text, htext, hparse⟩ := (mem_patternsUnder hpatterned p).mp hp
      exact ⟨subs, hsubs, text, htext, p, hparse, hoccurs⟩
    · rintro ⟨subs, hsubs, text, htext, p, hparse, hoccurs⟩
      exact ⟨p, (mem_patternsUnder hpatterned p).mpr ⟨subs, hsubs, text, htext, hparse⟩, hoccurs⟩
  rw [Lists, ← hkeys, ← hpatterns, isOther]
  simp

variable (below : KeptBelow follow node)

include below

/-- The schemas by name agree when they are closed. -/
theorem alike_mapUnder (hclosed : ClosedBelow node node') {keyword : String}
    (hkeyword : keyword = "properties" ∨ keyword = "patternProperties") {on : String → Json → Prop}
    (hon : ∀ subs, node.get? keyword = some (.object subs) → ∀ m ∈ subs, ∀ w, on m.1 w → Declared m.2 w) :
    Alike (AgreeKeyed follow on) (mapUnder keyword (readParts place node))
      (mapUnder keyword (readParts place node')) := by
  have hlook : node'.get? keyword = (node.get? keyword).map (tightenUnder .map) := by
    rcases hkeyword with rfl | rfl <;> exact hclosed _ (by decide)
  rw [mapUnder_readParts hkeyword, mapUnder_readParts hkeyword, hlook]
  cases hv : node.get? keyword with
  | none => exact .ok .nil
  | some v =>
    cases v with
    | object subs =>
      rw [Option.map_some, tightenUnder]
      exact alike_readMap _ (below.member hv) (hon subs hv)
    | _ =>
      simp only [Option.map_some, tightenUnder]
      exact .error _ _

/-- So the schemas by name agree on what is declared. -/
theorem alike_named (hclosed : ClosedBelow node node') :
    Alike (AgreeKeyed follow (OnMember (Declared (.object node)))) (mapUnder "properties" (readParts place node))
      (mapUnder "properties" (readParts place node')) := by
  refine alike_mapUnder below hclosed (.inl rfl) fun subs hsubs m hm w => ?_
  rintro ⟨members, hdeclared, hw⟩
  exact hdeclared.part (.named .root hsubs hm hw)

/-- So do those by pattern. -/
theorem alike_patterned (hclosed : ClosedBelow node node') :
    Alike (AgreeKeyed follow (OnMatch (Declared (.object node)))) (patternsUnder place (readParts place node))
      (patternsUnder place (readParts place node')) := by
  let on (text : String) (w : Json) : Prop :=
    ∃ p, PatternLanguage.parse? .memberNames text = some p ∧ OnMatch (Declared (.object node)) p w
  have hmap : Alike (AgreeKeyed follow on) (mapUnder "patternProperties" (readParts place node))
      (mapUnder "patternProperties" (readParts place node')) := by
    refine alike_mapUnder below hclosed (.inr rfl) fun subs hsubs m hm w => ?_
    rintro ⟨p, hparse, members, key, hdeclared, hw, hoccurs⟩
    exact hdeclared.part (.patterned .root hsubs hm hparse hoccurs hw)
  rw [patternsUnder_eq, patternsUnder_eq]
  refine hmap.bind fun named named' hagree => Alike.mapM hagree fun m n hmn => ?_
  rw [readPatterned, readPatterned, readPattern, readPattern, ← hmn.1]
  cases hparse : PatternLanguage.parse? .memberNames m.1 with
  | none => exact .error _ _
  | some p => exact .ok ⟨rfl, hmn.2.mono fun w hw => ⟨p, hparse, hw⟩⟩

section Listed

variable (hclosed : ClosedBelow node node')

include hclosed

/-- What is asked by name is alike, if others are treated alike. -/
theorem alike_ask_properties {v' : Json}
    (hsame : closesMembers (readParts place node') = closesMembers (readParts place node))
    (hv : node.get? "properties" = some v) (hv' : node'.get? "properties" = some v') :
    Alike (AgreeWhole follow (Declared (.object node))) (ask place node "properties" v)
      (ask place node' "properties" v') := by
  cases h : closesMembers (readParts place node) with
  | true =>
    rw [ask_of_closesMembers h (.inl rfl), ask_of_closesMembers (hsame.trans h) (.inl rfl)]
    exact .ok (.refl _ _)
  | false =>
    refine alike_of_yields fun P hP => ?_
    rw [yields_ask_properties h hv, yields_ask_properties (hsame.trans h) hv']
    refine Alike.yields_iff ?_ hP
    exact (alike_named below hclosed).map fun _ _ hagree =>
      (agree_object hagree .nil (Agree.refl _ (.all []))).single

/-- So is what is asked by pattern. -/
theorem alike_ask_patternProperties {v' : Json}
    (hsame : closesMembers (readParts place node') = closesMembers (readParts place node))
    (hv : node.get? "patternProperties" = some v) (hv' : node'.get? "patternProperties" = some v') :
    Alike (AgreeWhole follow (Declared (.object node))) (ask place node "patternProperties" v)
      (ask place node' "patternProperties" v') := by
  cases h : closesMembers (readParts place node) with
  | true =>
    rw [ask_of_closesMembers h (.inr rfl), ask_of_closesMembers (hsame.trans h) (.inr rfl)]
    exact .ok (.refl _ _)
  | false =>
    refine alike_of_yields fun P hP => ?_
    rw [yields_ask_patternProperties h hv, yields_ask_patternProperties (hsame.trans h) hv']
    refine Alike.yields_iff ?_ hP
    exact (alike_patterned below hclosed).map fun _ _ hagree =>
      (agree_object .nil hagree (Agree.refl _ (.all []))).single

/-- What is asked of the members that are not listed is the same for declared ones. -/
theorem alike_ask_additionalProperties (hv : node.get? "additionalProperties" = some v) :
    Alike (AgreeWhole follow (Declared (.object node))) (ask place node "additionalProperties" v)
      (ask place node' "additionalProperties" (tightenUnder .either v)) := by
  have hobject : Alike (AgreeWhole follow (Declared (.object node)))
      (do
        let patterns ← patternsUnder place (readParts place node)
        let named ← mapUnder "properties" (readParts place node)
        return [.object named patterns (← read (place.under "additionalProperties") v)])
      (do
        let patterns ← patternsUnder place (readParts place node')
        let named ← mapUnder "properties" (readParts place node')
        return [.object named patterns
          (← read (place.under "additionalProperties") (tightenUnder .either v))]) := by
    refine (alike_patterned below hclosed).bind_of_ok fun patterns patterns' hpatterns hpatterned => ?_
    refine (alike_named below hclosed).bind_of_ok fun named named' hnames hnamed => ?_
    refine (alike_read_either (below.own hv) _).map fun s t hagree => ?_
    refine (agree_object hnamed hpatterned (hagree.mono ?_)).single
    rintro w ⟨members, key, hdeclared, hw, hother⟩
    exact hdeclared.part (.other .root hv ((isOther_iff hnames hpatterns key).mp hother) hw)
  -- only `true` and `false` are read in their own way
  cases v with
  | bool b =>
    cases b with
    | true => exact .ok (.refl _ _)
    | false =>
      rw [show tightenUnder .either (.bool false) = .bool false by simp [tightenUnder]]
      have hhas {keyword : String} (hne : keyword ≠ "additionalProperties") :
          node'.has keyword = node.has keyword := by
        rw [Fields.has, hclosed keyword hne, Option.isSome_map, Fields.has]
      rw [ask_additionalProperties_false, ask_additionalProperties_false, hhas (by decide), hhas (by decide)]
      split
      · refine (alike_patterned below hclosed).bind fun patterns patterns' hpatterned => ?_
        exact (alike_named below hclosed).map fun named named' hnamed =>
          (agree_closedObject hnamed hpatterned).single
      · exact .ok (.refl _ _)
  | array items =>
    rw [tightenUnder] at hobject ⊢
    exact hobject
  | object members =>
    rw [tightenUnder] at hobject ⊢
    exact hobject
  | null | number | string =>
    rw [tightenUnder] at hobject ⊢
    · exact hobject
    all_goals simp

end Listed

end Members

section Nodes

variable {node node' : Fields} {place : Path}

/-- Every other keyword asks the same of declared values. -/
theorem alike_ask_other (below : KeptBelow follow node) (hclosed : ClosedBelow node node') {keyword : String}
    (h : keyword ∉ memberKeywords) {v : Json} (hv : node.get? keyword = some v) :
    Alike (AgreeWhole follow (Declared (.object node))) (ask place node keyword v)
      (ask place node' keyword (tightenUnder (schemaSite keyword) v)) := by
  by_cases hcombined : keyword ∈ ["allOf", "anyOf", "oneOf"]
  · have hsite : schemaSite keyword = .list := by
      simp only [List.mem_cons, List.not_mem_nil, or_false] at hcombined
      rcases hcombined with rfl | rfl | rfl <;> decide
    rw [hsite]
    exact alike_ask_combined node' below hcombined hv
  by_cases hitems : keyword = "items"
  · subst hitems
    exact alike_ask_items node' below hv
  by_cases hnot : keyword = "not"
  · subst hnot
    exact alike_ask_not node' below hv
  by_cases hdefinitions : keyword = "definitions"
  · subst hdefinitions
    exact .ok (.refl _ _)
  · have hsite : schemaSite keyword = .nowhere := by
      simp only [memberKeywords, List.mem_cons, List.not_mem_nil, or_false, not_or] at h hcombined
      simp [schemaSite, h, hcombined, hitems, hnot, hdefinitions]
    rw [hsite, Json.tightenUnder_nowhere, ask_of_nowhere hclosed hsite]
    exact .refl (AgreeWhole.refl _) _

/-- A schema that is not closed asks the same of declared values once the schemas in it are closed. -/
theorem alike_read_of_open (rising : node.Rising) (below : KeptBelow follow node)
    (hplain : node.get? "$ref" = none) :
    Alike (Agree follow (Declared (.object node))) (read place (.object node))
      (read place (.object (tightenKeywords node))) := by
  have hclosed : ClosedBelow node (tightenKeywords node) := fun keyword _ => Json.get?_tightenKeywords node keyword
  have hsame : closesMembers (readParts place (tightenKeywords node)) = closesMembers (readParts place node) := by
    rw [closesMembers_readParts, closesMembers_readParts, Json.get?_tightenKeywords,
      show schemaSite "additionalProperties" = .either by decide]
    cases node.get? "additionalProperties" with
    | none => rfl
    | some v => cases v <;> simp [tightenUnder, Json.isObject]
  have hask (keyword : String) (v : Json) (hv : node.get? keyword = some v) :
      Alike (AgreeWhole follow (Declared (.object node))) (ask place node keyword v)
        (ask place (tightenKeywords node) keyword (tightenUnder (schemaSite keyword) v)) := by
    have hv' : Fields.get? keyword (tightenKeywords node) = some (tightenUnder (schemaSite keyword) v) := by
      rw [Json.get?_tightenKeywords, hv, Option.map_some]
    by_cases hmember : keyword ∈ memberKeywords
    · simp only [memberKeywords, List.mem_cons, List.not_mem_nil, or_false] at hmember
      rcases hmember with rfl | rfl | rfl
      · exact alike_ask_properties below hclosed hsame hv hv'
      · exact alike_ask_patternProperties below hclosed hsame hv hv'
      · exact alike_ask_additionalProperties below hclosed hv
    · exact alike_ask_other below hclosed hmember hv
  refine alike_of_asks rising (Json.rising_tightenKeywords rising) hplain
    (by rw [get?_of_nowhere hclosed (by decide), hplain]) fun P hP => ⟨fun h keyword v' hv' => ?_, fun h keyword v hv => ?_⟩
  · rw [Json.get?_tightenKeywords, Option.map_eq_some_iff] at hv'
    obtain ⟨v, hv, rfl⟩ := hv'
    exact ((hask keyword v hv).yields_iff hP).mp (h keyword v hv)
  · refine ((hask keyword v hv).yields_iff hP).mpr (h keyword _ ?_)
    rw [Json.get?_tightenKeywords, hv, Option.map_some]

/-- Where members are listed and nothing is said about others, refusing these asks the same of declared
values. -/
theorem yields_closing_iff (below : KeptBelow follow node) (hclosed : ClosedBelow node node')
    (hcloses : Closes node) {P : Schema → Prop} (hP : Asked follow (Declared (.object node)) P) :
    ((∀ v, node.get? "properties" = some v → Yields P (ask place node "properties" v)) ∧
        ∀ v, node.get? "patternProperties" = some v → Yields P (ask place node "patternProperties" v)) ↔
      Yields P (ask place node' "additionalProperties" (.bool false)) := by
  have hopen : closesMembers (readParts place node) = false := by
    rw [closesMembers_readParts, Fields.has_eq_false_iff.mp hcloses.silent]
  obtain ⟨properties, hproperties⟩ := Fields.has_iff.mp hcloses.properties
  have hnamed : (∀ v, node.get? "properties" = some v → Yields P (ask place node "properties" v)) ↔
      Yields P (do return [.object (← mapUnder "properties" (readParts place node)) [] (.all [])]) := by
    rw [← yields_ask_properties hopen hproperties]
    simp [hproperties]
  have hpatterned : (∀ v, node.get? "patternProperties" = some v → Yields P (ask place node "patternProperties" v)) ↔
      Yields P (do return [.object [] (← patternsUnder place (readParts place node)) (.all [])]) := by
    cases hv : node.get? "patternProperties" with
    | some patterns =>
      rw [← yields_ask_patternProperties hopen hv]
      simp
    | none =>
      rw [patternsUnder_eq, mapUnder_readParts (.inr rfl), hv]
      refine iff_of_true (by simp) (yields_ok.mpr (List.forall_mem_singleton.mpr ?_))
      exact hP.of_fits fun _ _ => fits_object_nil
  have hlists : (node'.has "properties" || node'.has "patternProperties") = true := by
    rw [Fields.has, hclosed "properties" (by decide), hproperties]
    rfl
  rw [hnamed, hpatterned, ← yields_pair, ask_additionalProperties_false, if_pos hlists]
  refine Alike.yields_iff ?_ hP
  refine (alike_patterned below hclosed).bind_of_ok fun patterns patterns' hpatterns hpatterned => ?_
  refine (alike_named below hclosed).bind_of_ok fun named named' hnames hnamed => .ok ?_
  -- a closed schema lists what is declared, so there are no others to refuse
  have hlisted (members : Fields) (hdeclared : Declared (.object node) (.object members)) :
      ∀ m ∈ members, isOther (named.map (·.1)) (patterns.map (·.1)) m.1 = false := by
    intro m hm
    have hlists := hcloses.lists_of_declares (hdeclared [] node members .root hcloses m hm)
    exact Bool.eq_false_iff.mpr fun hother => (isOther_iff hnames hpatterns m.1).mp hother hlists
  intro place v hv
  rw [agree_closing hnamed hpatterned hlisted place v hv, fits_all, List.forall_mem_singleton]

/-- A schema that is closed asks the same of declared values. -/
theorem alike_read_of_closes (rising : node.Rising) (below : KeptBelow follow node)
    (hplain : node.get? "$ref" = none) (hcloses : Closes node) :
    Alike (Agree follow (Declared (.object node))) (read place (.object node))
      (read place
        (.object (Fields.insert "additionalProperties" (.bool false) (tightenKeywords node)))) := by
  have hlook (keyword : String) : Fields.get? keyword
      (Fields.insert "additionalProperties" (.bool false) (tightenKeywords node)) =
        if "additionalProperties" = keyword then some (.bool false)
        else (node.get? keyword).map (tightenUnder (schemaSite keyword)) := by
    rw [Fields.get?_insert, Json.get?_tightenKeywords]
  generalize hnode' : Fields.insert "additionalProperties" (.bool false) (tightenKeywords node) = node' at hlook ⊢
  have hclosed : ClosedBelow node node' := fun keyword hne => by rw [hlook, if_neg (Ne.symm hne)]
  have hrefuses : node'.get? "additionalProperties" = some (.bool false) := by rw [hlook, if_pos rfl]
  have hsilent : node.get? "additionalProperties" = none := Fields.has_eq_false_iff.mp hcloses.silent
  have hcloses' : closesMembers (readParts place node') = true := by
    rw [closesMembers_readParts, hrefuses]
    rfl
  refine alike_of_asks rising (hnode' ▸ (Json.rising_tightenKeywords rising).insert _ _) hplain
    (by rw [get?_of_nowhere hclosed (by decide), hplain]) fun P hP => ?_
  rw [forall_keywords_iff, forall_keywords_iff, yields_closing_iff below hclosed hcloses hP]
  have hother (keyword : String) (hmember : keyword ∉ memberKeywords) :
      (∀ v, node.get? keyword = some v → Yields P (ask place node keyword v)) ↔
        ∀ v, node'.get? keyword = some v → Yields P (ask place node' keyword v) := by
    have hne : keyword ≠ "additionalProperties" := by
      rintro rfl
      exact hmember (by decide)
    rw [hclosed keyword hne]
    cases hv : node.get? keyword with
    | none => simp
    | some v =>
      simp only [Option.map_some, Option.some.injEq, forall_eq']
      exact (alike_ask_other below hclosed hmember hv).yields_iff hP
  -- once unlisted members are refused the listings themselves ask nothing: refusing asks for them
  have hlisted {keyword : String} (h : keyword = "properties" ∨ keyword = "patternProperties") (v : Json) :
      Yields P (ask place node' keyword v) := by
    rw [ask_of_closesMembers hcloses' h, yields_ok]
    exact List.forall_mem_nil _
  have hunsaid : ∀ v, node.get? "additionalProperties" = some v →
      Yields P (ask place node "additionalProperties" v) := by simp [hsilent]
  have hrefused : (∀ v, node'.get? "additionalProperties" = some v →
      Yields P (ask place node' "additionalProperties" v)) ↔
        Yields P (ask place node' "additionalProperties" (.bool false)) := by simp [hrefuses]
  rw [hrefused]
  constructor
  · rintro ⟨hclosing, -, hrest⟩
    exact ⟨⟨fun v _ => hlisted (.inl rfl) v, fun v _ => hlisted (.inr rfl) v⟩, hclosing,
      fun keyword hmember => (hother keyword hmember).mp (hrest keyword hmember)⟩
  · rintro ⟨-, hclosing, hrest⟩
    exact ⟨hclosing, hunsaid, fun keyword hmember => (hother keyword hmember).mpr (hrest keyword hmember)⟩

end Nodes

/-- Closing keeps what any schema asks of values that are declared. -/
theorem kept {s : Json} (hwf : s.WellFormed) : Kept follow s := by
  -- the schemas under a keyword are its value, or stand in its value
  suffices h : Kept follow s ∧ (∀ subs, s = .object subs → ∀ m ∈ subs, Kept follow m.2) ∧
      ∀ items, s = .array items → ∀ t ∈ items, Kept follow t from h.1
  have hself {v : Json} (h : v.tighten = v) : Kept follow v := fun place => by
    rw [h]
    exact .refl (Agree.refl _) _
  induction s with
  | null | bool | number | string =>
    refine ⟨hself ?_, by simp, by simp⟩
    rw [tighten]
    simp
  | array items ih =>
    cases hwf with
    | array _ each =>
      refine ⟨hself ?_, by simp, ?_⟩
      · rw [tighten]
        simp
      · rintro _ ⟨⟩ t ht
        exact (ih t ht (each t ht)).1
  | object node ih =>
    obtain ⟨rising, each⟩ := Json.wellFormed_object_iff.mp hwf
    have hinner {keyword : String} {v : Json} (hv : node.get? keyword = some v) :=
      ih (keyword, v) (Fields.mem_of_get? hv) (each keyword v hv)
    have below : KeptBelow follow node :=
      ⟨fun hv => (hinner hv).1, fun hv => (hinner hv).2.1 _ rfl, fun hv => (hinner hv).2.2 _ rfl⟩
    refine ⟨fun place => ?_, ?_, by simp⟩
    · rw [tighten]
      have hreference : (closeProperties (tightenKeywords node)).get? "$ref" = node.get? "$ref" := by
        have hplain : Fields.get? "$ref" (tightenKeywords node) = node.get? "$ref" := by
          rw [Json.get?_tightenKeywords, show schemaSite "$ref" = .nowhere by decide]
          cases node.get? "$ref" <;> simp
        obtain ⟨-, h⟩ | ⟨-, h⟩ := closeProperties_cases node <;> rw [h]
        · rw [Fields.get?_insert, if_neg (by decide), hplain]
        · exact hplain
      cases htarget : node.get? "$ref" with
      | some target =>
        rw [read, read, hreference, htarget]
        cases target with
        | string target => exact .ok (Agree.refl _ _)
        | _ => exact .error _ _
      | none =>
        obtain ⟨hcloses, h⟩ | ⟨-, h⟩ := closeProperties_cases node <;> rw [h]
        · exact alike_read_of_closes rising below htarget hcloses
        · exact alike_read_of_open rising below htarget
    · rintro _ ⟨⟩ m hm
      exact (hinner (Fields.get?_of_mem rising hm)).1

/-- A value is valid under a schema when this can be read and the value fits it. -/
def Valid (follow : String → Check) (s v : Json) : Prop := ∃ schema, read [] s = .ok schema ∧ schema.Fits follow [] v

/-- Whether a value is valid can be decided. -/
instance (s v : Json) : Decidable (Valid follow s v) :=
  match h : read [] s with
  | .ok schema => decidable_of_iff (schema.Fits follow [] v) (by simp [Valid, h])
  | .error _ => isFalse (by simp [Valid, h])

/-- Closing a schema changes nothing for values of which every closed schema that applies to an object
declares all members. -/
theorem valid_tighten_iff {s v : Json} (hwf : s.WellFormed) (hdeclared : Declared s v) :
    Valid follow s.tighten v ↔ Valid follow s v := by
  have hkept : Alike (Agree follow (Declared s)) (read [] s) (read [] s.tighten) := kept hwf []
  rw [Valid, Valid]
  generalize read [] s = x at hkept ⊢
  generalize read [] s.tighten = y at hkept ⊢
  cases hkept with
  | error e e' => simp
  | ok hagree => simp [hagree [] v hdeclared]

end Kept

/-- A schema and what it excludes both list the only member. -/
theorem valid_tighten_of_declared_twice :
    let branch : Fields := [("properties", .object [("a", .object [("type", .string "number")])])]
    let node : Fields :=
      [("not", .object branch), ("properties", .object [("a", .object [("type", .string "string")])])]
    let members : Fields := [("a", .string "x")]
    Json.WellFormed (.object node) ∧ Declared (.object node) (.object members) ∧
      (Valid (fun _ _ _ => []) (Json.tighten (.object node)) (.object members) ↔
        Valid (fun _ _ _ => []) (.object node) (.object members)) ∧
      Valid (fun _ _ _ => []) (.object node) (.object members) := by
  intro branch node members
  have hwf : Json.WellFormed (.object node) := by decide
  -- the schema and what it excludes apply to the object, and what they have for its member to that
  have happlies {place : Path} {t w : Json} (h : Applies (.object node) (.object members) place t w) :
      (t = .object node ∨ t = .object branch) ∧ w = .object members ∨
        (∃ type, t = .object [("type", type)]) ∧ w = .string "x" := by
    induction h with
    | root => exact .inl ⟨.inl rfl, rfl⟩
    | branch _ combines found _ ih =>
      simp only [List.mem_cons, List.not_mem_nil, or_false] at combines
      obtain ⟨h | h, -⟩ | ⟨⟨_, h⟩, -⟩ := ih <;> obtain rfl := Json.object.inj h <;>
        rcases combines with rfl | rfl | rfl <;> cases found
    | excluded _ found ih =>
      obtain ⟨h | h, hw⟩ | ⟨⟨_, h⟩, -⟩ := ih <;> obtain rfl := Json.object.inj h <;> cases found
      exact .inl ⟨.inr rfl, hw⟩
    | named _ found chosen member ih =>
      obtain ⟨h | h, hw⟩ | ⟨⟨_, h⟩, -⟩ := ih <;> obtain rfl := Json.object.inj h <;> cases found <;>
        cases List.mem_singleton.mp chosen <;> obtain rfl := Json.object.inj hw <;>
          cases List.mem_singleton.mp member <;> exact .inr ⟨⟨_, rfl⟩, rfl⟩
    | patterned _ found _ _ _ _ ih | other _ found _ _ ih | item _ found _ ih | inTurn _ found _ _ ih =>
      obtain ⟨h | h, -⟩ | ⟨⟨_, h⟩, -⟩ := ih <;> obtain rfl := Json.object.inj h <;> cases found
  have hdeclared : Declared (.object node) (.object members) := by
    intro place n ms h _ m hm
    obtain ⟨h | h, hw⟩ | ⟨-, hw⟩ := happlies h
    · obtain rfl := Json.object.inj h
      obtain rfl := Json.object.inj hw
      cases List.mem_singleton.mp hm
      exact .inl (.inl ⟨_, rfl, List.mem_singleton.mpr rfl⟩)
    · obtain rfl := Json.object.inj h
      obtain rfl := Json.object.inj hw
      cases List.mem_singleton.mp hm
      exact .inl (.inl ⟨_, rfl, List.mem_singleton.mpr rfl⟩)
    · contradiction
  exact ⟨hwf, hdeclared, valid_tighten_iff hwf hdeclared, by decide +kernel⟩

/-- Closing refuses members that one branch of a combinator lists and another one does not. -/
theorem tighten_refuses_members_of_other_branches :
    let first : Json := .object [("properties", .object [("a", .object [])])]
    let second : Json := .object [("properties", .object [("b", .object [])])]
    let s : Json := .object [("allOf", .array [first, second])]
    let members : Fields := [("a", .string "x"), ("b", .string "y")]
    s.WellFormed ∧ Json.WellFormed (.object members) ∧ DeclaredBySome s (.object members) ∧
      Valid (fun _ _ _ => []) s (.object members) ∧ ¬Valid (fun _ _ _ => []) s.tighten (.object members) := by
  intro first second s members
  have hbranch (key : String) (hkey : Json.object [("properties", .object [(key, .object [])])] ∈ [first, second]) :
      ∃ node, Applies s (.object members) [] (.object node) (.object members) ∧ Declares node key :=
    ⟨_, .branch .root (List.mem_cons_self ..) rfl hkey, .inl (.inl ⟨_, rfl, List.mem_singleton.mpr rfl⟩)⟩
  have hdeclared : DeclaredBySome s (.object members) := by
    intro place object hpart m hm
    cases place with
    | nil =>
      obtain rfl := Json.object.inj (Option.some.inj hpart)
      simp only [members, List.mem_cons, List.not_mem_nil, or_false] at hm
      rcases hm with rfl | rfl
      · exact hbranch "a" (List.mem_cons_self ..)
      · exact hbranch "b" (List.mem_cons_of_mem _ (List.mem_cons_self ..))
    | cons step below =>
      -- texts have no members
      have htext (text : String) : partAt below (.string text) ≠ some (.object object) := by
        rcases below with _ | ⟨_ | _, _⟩ <;> simp [partAt, Json.get?]
      cases step with
      | index => contradiction
      | key key =>
        obtain ⟨w, hw, hbelow⟩ := Option.bind_eq_some_iff.mp hpart
        obtain ⟨-, rfl⟩ | ⟨-, rfl⟩ : (key = "a" ∧ w = .string "x") ∨ key = "b" ∧ w = .string "y" := by
          have hmem := Fields.mem_of_get? hw
          simpa [members] using hmem
        · exact absurd hbelow (htext "x")
        · exact absurd hbelow (htext "y")
  exact ⟨by decide, by decide, hdeclared, by decide +kernel, by decide +kernel⟩

end Schema

end Reconcile
