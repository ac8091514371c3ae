import Reconcile.Schema.Reader
import Reconcile.Schema.Tighten
import Reconcile.Proofs.Schema.Parts

/-!
# Which schemas apply where

A schema applies to a whole value, and so do the branches of its combinators; the schemas that it has for
members and items apply to these. `Applies` follows all of them through a value. A schema that is closed
is one that lists properties and says nothing about others, and `Declared` asks of a value that whatever
closed schema applies to an object in it declares every member of that object.
-/

namespace Reconcile.Schema

variable [PatternLanguage]

/-- A key is listed: it is the name of a property, or of one of the patterns of properties. -/
def Lists (node : Fields) (key : String) : Prop :=
  (∃ subs, node.get? "properties" = some (.object subs) ∧ key ∈ Fields.keys subs) ∨
    ∃ subs, node.get? "patternProperties" = some (.object subs) ∧
      ∃ text ∈ Fields.keys subs, ∃ p, PatternLanguage.parse? .memberNames text = some p ∧ p key = true

/-- A key is declared: it is listed, or others than those that are listed are allowed. -/
def Declares (node : Fields) (key : String) : Prop :=
  Lists node key ∨ ∃ s, node.get? "additionalProperties" = some s ∧ s ≠ .bool false

/-- A schema that is closed by `Json.tighten`. -/
structure Closes (node : Fields) : Prop where
  properties : node.has "properties" = true
  silent : node.has "additionalProperties" = false
  strict : preservesUnknown node = false

/-- Whether a schema is closed can be decided. -/
instance (node : Fields) : Decidable (Closes node) :=
  decidable_of_iff
    (node.has "properties" = true ∧ node.has "additionalProperties" = false ∧ preservesUnknown node = false)
    ⟨fun ⟨properties, silent, strict⟩ => ⟨properties, silent, strict⟩,
      fun ⟨properties, silent, strict⟩ => ⟨properties, silent, strict⟩⟩

/-- The schemas that apply at the places of a value, each with what stands at its place. -/
inductive Applies (s v : Json) : Path → Json → Json → Prop
  | root : Applies s v [] s v
  | branch {place : Path} {node : Fields} {w t : Json} {keyword : String} {branches : List Json}
    (node_applies : Applies s v place (.object node) w) (combines : keyword ∈ ["allOf", "anyOf", "oneOf"])
    (found : node.get? keyword = some (.array branches)) (chosen : t ∈ branches) : Applies s v place t w
  | excluded {place : Path} {node : Fields} {w t : Json} (node_applies : Applies s v place (.object node) w)
    (found : node.get? "not" = some t) : Applies s v place t w
  | named {place : Path} {node members subs : Fields} {key : String} {w t : Json}
    (node_applies : Applies s v place (.object node) (.object members))
    (found : node.get? "properties" = some (.object subs)) (chosen : (key, t) ∈ subs)
    (member : (key, w) ∈ members) : Applies s v (place.under key) t w
  | patterned {place : Path} {node members subs : Fields} {key text : String} {p : Matcher} {w t : Json}
    (node_applies : Applies s v place (.object node) (.object members))
    (found : node.get? "patternProperties" = some (.object subs)) (chosen : (text, t) ∈ subs)
    (parsed : PatternLanguage.parse? .memberNames text = some p) (occurs : p key = true)
    (member : (key, w) ∈ members) : Applies s v (place.under key) t w
  | other {place : Path} {node members : Fields} {key : String} {w t : Json}
    (node_applies : Applies s v place (.object node) (.object members))
    (found : node.get? "additionalProperties" = some t) (unlisted : ¬Lists node key)
    (member : (key, w) ∈ members) : Applies s v (place.under key) t w
  | item {place : Path} {node : Fields} {items : List Json} {i : Nat} {w t : Json}
    (node_applies : Applies s v place (.object node) (.array items)) (found : node.get? "items" = some t)
    (member : items[i]? = some w) : Applies s v (place.item i) t w
  | inTurn {place : Path} {node : Fields} {items schemas : List Json} {i : Nat} {w t : Json}
    (node_applies : Applies s v place (.object node) (.array items))
    (found : node.get? "items" = some (.array schemas)) (chosen : schemas[i]? = some t)
    (member : items[i]? = some w) : Applies s v (place.item i) t w

/-- Every member of every object in a value is declared by some schema that applies at its place. -/
def DeclaredBySome (s v : Json) : Prop :=
  ∀ place members, partAt place v = some (.object members) → ∀ m ∈ members,
    ∃ node, Applies s v place (.object node) (.object members) ∧ Declares node m.1

/-- Every closed schema that applies to an object in a value declares all members of the object. -/
def Declared (s v : Json) : Prop :=
  ∀ place node members, Applies s v place (.object node) (.object members) → Closes node →
    ∀ m ∈ members, Declares node m.1

/-- What applies within a value, under a schema that applies there, applies. -/
theorem Applies.trans {s v t w t' w' : Json} {place below : Path} (h : Applies s v place t w)
    (h' : Applies t w below t' w') : Applies s v (place ++ below) t' w' := by
  induction h' with
  | root => rwa [List.append_nil]
  | branch _ combines found chosen ih => exact ih.branch combines found chosen
  | excluded _ found ih => exact ih.excluded found
  | named _ found chosen member ih =>
    rw [Path.under, ← List.append_assoc]
    exact ih.named found chosen member
  | patterned _ found chosen parsed occurs member ih =>
    rw [Path.under, ← List.append_assoc]
    exact ih.patterned found chosen parsed occurs member
  | other _ found unlisted member ih =>
    rw [Path.under, ← List.append_assoc]
    exact ih.other found unlisted member
  | item _ found member ih =>
    rw [Path.item, ← List.append_assoc]
    exact ih.item found member
  | inTurn _ found chosen member ih =>
    rw [Path.item, ← List.append_assoc]
    exact ih.inTurn found chosen member

/-- What a schema applies to stands at its place. -/
theorem Applies.partAt_eq {s v t w : Json} {place : Path} (hwf : v.WellFormed) (h : Applies s v place t w) :
    partAt place v = some w := by
  induction h with
  | root => rfl
  | branch _ _ _ _ ih => exact ih
  | excluded _ _ ih => exact ih
  | named _ _ _ member ih => exact partAt_member hwf ih member
  | patterned _ _ _ _ _ member ih => exact partAt_member hwf ih member
  | other _ _ _ member ih => exact partAt_member hwf ih member
  | item _ _ member ih => exact (partAt_item ih _).trans member
  | inTurn _ _ _ member ih => exact (partAt_item ih _).trans member

/-- What is declared is declared in its parts, for the schemas that apply there. -/
theorem Declared.part {s v t w : Json} {place : Path} (h : Declared s v) (happlies : Applies s v place t w) :
    Declared t w := fun below node members hbelow =>
  h (place ++ below) node members (happlies.trans hbelow)

/-- A closed schema lists what it declares. -/
theorem Closes.lists_of_declares {node : Fields} (h : Closes node) {key : String} (hkey : Declares node key) :
    Lists node key := by
  rcases hkey with hkey | ⟨s, hs, -⟩
  · exact hkey
  · rw [Fields.has_eq_false_iff.mp h.silent] at hs
    contradiction

end Reconcile.Schema
