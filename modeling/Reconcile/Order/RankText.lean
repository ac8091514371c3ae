import Reconcile.Order.Rank
import Reconcile.Yaml.Value

/-!
# Rank tables in YAML

A rank table is written as a mapping with the optional entries `rules`, `cluster_scoped` and
`default`; what is missing is as in the standard table. Entries with other keys do not count, an
entry given twice is refused. Texts may be any scalar, ranks are plain integers of 32 bits.
-/

namespace Reconcile.RankTable

open Yaml

/-- The entries of a mapping by key, each at most once of the `known` ones. -/
def entries (d : Document) (known : List String) (node : Node) : Document.Read (List (String × Node)) := do
  match ← d.resolve node with
  | .mapping _ pairs =>
    let named ← pairs.mapM fun pair => do return (← d.text pair.1, pair.2)
    let named := named.filter fun entry => known.contains entry.1
    if (named.map (·.1)).Nodup then return named else failure
  | _ => failure

/-- A plain integer of 32 bits. -/
def readRank (d : Document) (node : Node) : Document.Read Int := do
  match ← d.resolve node with
  | .scalar tag style text =>
    if style == .plain || (style == .literal && tag == some (standardTag "int")) then
      match Plain.integer text with
      | .exact z => if -0x80000000 ≤ z.val ∧ z.val < 0x80000000 then return z.val else failure
      | _ => failure
    else failure
  | _ => failure

/-- A group, or null for any. -/
def readGroup (d : Document) (node : Node) : Document.Read (Option String) := do
  match ← d.resolve node with
  | .scalar tag style text =>
    if style != .plain then return some text
    else if tag == some (standardTag "null") then
      if Plain.isNull text then return none else failure
    else if tag.isSome then return some text
    else if text == "" || Plain.isNull text then return none
    else return some text
  | _ => failure

/-- One rule; only the group may be missing. -/
def readRule (d : Document) (node : Node) : Document.Read RankRule := do
  let entries ← entries d ["group", "kind", "rank"] node
  let group ← match entries.lookup "group" with
    | some node => readGroup d node
    | none => pure none
  match entries.lookup "kind", entries.lookup "rank" with
  | some kind, some rank => return ⟨group, ← d.text kind, ← readRank d rank⟩
  | _, _ => failure

/-- The rules. -/
def readRules (d : Document) (node : Node) : Document.Read (List RankRule) := do
  match ← d.resolve node with
  | .sequence _ items => items.mapM (readRule d)
  | _ => failure

/-- A whole table. -/
def readTable (d : Document) (node : Node) : Document.Read RankTable := do
  let entries ← entries d ["rules", "cluster_scoped", "default"] node
  let rules ← match entries.lookup "rules" with
    | some node => readRules d node
    | none => pure standard.rules
  let clusterScoped ← match entries.lookup "cluster_scoped" with
    | some node => readRank d node
    | none => pure standard.clusterScoped
  let default ← match entries.lookup "default" with
    | some node => readRank d node
    | none => pure standard.default
  return ⟨rules, clusterScoped, default⟩

/-- Reads a table from a text with one document, which may be empty. -/
def ofYaml? (text : String) : Option RankTable := do
  match ← Document.ofText? text with
  | [d] =>
    match d.root with
    | none => some standard
    | some root => ((readTable d root).run 0).map (·.1)
  | _ => none

end Reconcile.RankTable
