import Reconcile.Proofs.Order.Basic

/-!
# Tiers

The order of creation puts objects into tiers by the ranks of their kinds. With the standard table the
definitions of kinds come first, the namespaces before whatever may live in them, what creates pods after
every kind without a rule of its own, and the admission webhooks last, whatever is known about scopes:
`tiered_creationOrder`.
-/

namespace Reconcile

/-- Nothing of the second sort comes before anything of the first. -/
def InTiers {α : Type} (first second : α → Prop) (items : List α) : Prop :=
  items.Pairwise fun a b => second a → ¬first b

namespace InTiers

variable {α : Type} {first second : α → Prop} {items : List α}

/-- What is sorted by a rank is in tiers when the rank tells the two sorts apart. -/
theorem of_rank {rank : α → Int} (hsorted : items.Pairwise fun a b => rank a ≤ rank b)
    (hrank : ∀ a b, first a → second b → rank a < rank b) : InTiers first second items :=
  hsorted.imp fun {a b} hle hsecond hfirst => absurd (hrank b a hfirst hsecond) (by omega)

end InTiers

namespace SortKey

/-- Keys are in the order of their ranks first of all. -/
theorem rank_le_of_le {a b : SortKey} (h : a.le b = true) : a.rank ≤ b.rank := by
  rw [le, compare, Ordering.isLE_then_iff_and] at h
  exact Std.isLE_compare.mp h.1

end SortKey

section Ranks

variable (table : RankTable) (scopes : Scopes) (objects : List Resource)

/-- The order of creation is by rank. -/
theorem pairwise_rank_creationOrder :
    (creationOrder table scopes objects).Pairwise fun a b =>
      table.rank a.gvk (scopes a.gvk) ≤ table.rank b.gvk (scopes b.gvk) :=
  (pairwise_sortByKey (creationKey table scopes) objects).imp SortKey.rank_le_of_le

/-- The order of deletion is by rank, from the last one on. -/
theorem pairwise_rank_deletionOrder :
    (deletionOrder table scopes objects).Pairwise fun a b =>
      table.rank b.gvk (scopes b.gvk) ≤ table.rank a.gvk (scopes a.gvk) :=
  List.pairwise_reverse.mpr (pairwise_rank_creationOrder table scopes objects)

end Ranks

/-- A kind is one of these, by its group and its name. -/
def Gvk.IsOneOf (kinds : List (String × String)) (gvk : Gvk) : Prop := (gvk.group, gvk.kind) ∈ kinds

/-- Whether a kind is in a list of kinds can be decided. -/
instance (kinds : List (String × String)) (gvk : Gvk) : Decidable (gvk.IsOneOf kinds) :=
  inferInstanceAs (Decidable ((gvk.group, gvk.kind) ∈ kinds))

/-- A kind is in two lists together when it is in one of them. -/
theorem Gvk.isOneOf_append {kinds others : List (String × String)} {gvk : Gvk} :
    gvk.IsOneOf (kinds ++ others) ↔ gvk.IsOneOf kinds ∨ gvk.IsOneOf others := List.mem_append

namespace RankTable

/-- The kind of namespaces. -/
def namespaces : List (String × String) := [("", "Namespace")]

/-- A kind has a rule of its own. -/
def HasRule (table : RankTable) (gvk : Gvk) : Prop := ∃ rule ∈ table.rules, rule.fits gvk = true

variable {gvk : Gvk} {scope : Option Scope}

/-- The rules of a tier decide about its kinds, and leave all others to the rules after them. -/
theorem rank_rulesAt_append (rank clusterScoped default : Int) (kinds : List (String × String))
    (rest : List RankRule) :
    RankTable.rank ⟨rulesAt rank kinds ++ rest, clusterScoped, default⟩ gvk scope =
      if gvk.IsOneOf kinds then rank else RankTable.rank ⟨rest, clusterScoped, default⟩ gvk scope := by
  induction kinds with
  | nil => rfl
  | cons kind others ih =>
    have hfits : RankRule.fits ⟨some kind.1, kind.2, rank⟩ gvk = true ↔ (gvk.group, gvk.kind) = kind := by
      rcases kind with ⟨group, name⟩
      rw [RankRule.fits, Bool.and_eq_true, Option.all_some, beq_iff_eq, beq_iff_eq, Prod.mk.injEq]
      exact ⟨fun h => ⟨h.2.symm, h.1.symm⟩, fun h => ⟨h.2.symm, h.1.symm⟩⟩
    have hcons : gvk.IsOneOf (kind :: others) ↔ (gvk.group, gvk.kind) = kind ∨ gvk.IsOneOf others :=
      List.mem_cons
    rw [RankTable.rank, rulesAt, List.map_cons, List.cons_append, List.find?_cons]
    by_cases hkind : (gvk.group, gvk.kind) = kind
    · rw [if_pos (hcons.mpr (.inl hkind)), hfits.mpr hkind]
    · rw [if_congr (hcons.trans (or_iff_right hkind)) rfl rfl, ← ih, Bool.eq_false_iff.mpr (mt hfits.mp hkind)]
      rfl

/-- The ranks that the standard table gives. -/
theorem rank_standard (gvk : Gvk) (scope : Option Scope) :
    standard.rank gvk scope =
      if gvk.IsOneOf definitions then 10
      else if gvk.IsOneOf namespaces then 20
      else if gvk.IsOneOf podCreating then 100
      else if gvk.IsOneOf webhooks then 200
      else if scope = some .cluster then 20
      else 50 := by
  rw [standard, List.append_assoc, List.append_assoc, ← List.append_nil (rulesAt 200 webhooks)]
  simp only [rank_rulesAt_append]
  rfl

/-- The standard table has a rule for the kinds that it lists, and for no other. -/
theorem hasRule_standard_iff : standard.HasRule gvk ↔
    gvk.IsOneOf (definitions ++ namespaces ++ podCreating ++ webhooks) := by
  have hrules (rank : Int) (kinds : List (String × String)) :
      (∃ rule ∈ rulesAt rank kinds, rule.fits gvk = true) ↔ gvk.IsOneOf kinds := by
    simp [rulesAt, RankRule.fits, Gvk.IsOneOf, and_comm]
  simp only [HasRule, standard, List.mem_append, or_and_right, exists_or, hrules, Gvk.IsOneOf, namespaces]

/-- Kinds of one tier are of no other. -/
theorem not_isOneOf_of_disjoint {kinds others : List (String × String)} (h : gvk.IsOneOf kinds)
    (hdisjoint : ∀ kind ∈ kinds, kind ∉ others) : ¬gvk.IsOneOf others := hdisjoint _ h

/-- Namespaces are at twenty. -/
theorem rank_namespaces (h : gvk.IsOneOf namespaces) : standard.rank gvk scope = 20 := by
  rw [rank_standard, if_neg (not_isOneOf_of_disjoint h (by decide)), if_pos h]

/-- What creates pods is at a hundred. -/
theorem rank_podCreating (h : gvk.IsOneOf podCreating) : standard.rank gvk scope = 100 := by
  rw [rank_standard, if_neg (not_isOneOf_of_disjoint h (by decide)),
    if_neg (not_isOneOf_of_disjoint h (by decide)), if_pos h]

/-- Webhooks are at two hundred. -/
theorem rank_webhooks (h : gvk.IsOneOf webhooks) : standard.rank gvk scope = 200 := by
  rw [rank_standard, if_neg (not_isOneOf_of_disjoint h (by decide)),
    if_neg (not_isOneOf_of_disjoint h (by decide)), if_neg (not_isOneOf_of_disjoint h (by decide)), if_pos h]

/-- No kind comes before the definitions, and only these are in their tier. -/
theorem rank_lt_of_definitions {other : Gvk} {otherScope : Option Scope} (h : gvk.IsOneOf definitions)
    (hother : standard.rank other otherScope ≠ 10) :
    standard.rank gvk scope < standard.rank other otherScope := by
  rw [rank_standard, if_pos h]
  rw [rank_standard] at hother ⊢
  split_ifs at hother ⊢ <;> omega

/-- A kind without a rule comes before the last two tiers. -/
theorem rank_le_of_not_hasRule (h : ¬standard.HasRule gvk) : standard.rank gvk scope ≤ 50 := by
  simp only [hasRule_standard_iff, Gvk.isOneOf_append, not_or] at h
  obtain ⟨⟨⟨hdefinition, hnamespace⟩, hpod⟩, hwebhook⟩ := h
  rw [rank_standard, if_neg hdefinition, if_neg hnamespace, if_neg hpod, if_neg hwebhook]
  split <;> decide

/-- All but the webhooks come before these. -/
theorem rank_lt_of_not_webhooks (h : ¬gvk.IsOneOf webhooks) : standard.rank gvk scope < 200 := by
  rw [rank_standard, if_neg h]
  split_ifs <;> decide

end RankTable

/-- Objects of this kind may live in namespaces: for all that is known the kind is not cluster-wide, and it
neither defines kinds nor is the kind of namespaces. -/
def Gvk.MayNeedNamespace (scopes : Scopes) (gvk : Gvk) : Prop :=
  scopes gvk ≠ some .cluster ∧ ¬gvk.IsOneOf (RankTable.definitions ++ RankTable.namespaces)

/-- Whatever may need a namespace comes behind all namespaces. -/
theorem Gvk.MayNeedNamespace.rank_lt {scopes : Scopes} {gvk ns : Gvk} (h : gvk.MayNeedNamespace scopes)
    (hns : ns.IsOneOf RankTable.namespaces) :
    RankTable.standard.rank ns (scopes ns) < RankTable.standard.rank gvk (scopes gvk) := by
  obtain ⟨hscope, hkind⟩ := h
  simp only [isOneOf_append, not_or] at hkind
  rw [RankTable.rank_namespaces hns, RankTable.rank_standard, if_neg hkind.1, if_neg hkind.2, if_neg hscope]
  split_ifs <;> decide

/-- The tiers of a list of objects. -/
structure Tiered (scopes : Scopes) (objects : List Resource) : Prop where
  definitions : InTiers (fun r => r.gvk.IsOneOf RankTable.definitions)
    (fun r => RankTable.standard.rank r.gvk (scopes r.gvk) ≠ 10) objects
  namespaces : InTiers (fun r => r.gvk.IsOneOf RankTable.namespaces)
    (fun r => r.gvk.MayNeedNamespace scopes) objects
  podCreating : InTiers (fun r => ¬RankTable.standard.HasRule r.gvk)
    (fun r => r.gvk.IsOneOf RankTable.podCreating) objects
  webhooks : InTiers (fun r => ¬r.gvk.IsOneOf RankTable.webhooks)
    (fun r => r.gvk.IsOneOf RankTable.webhooks) objects

/-- The order of creation is in tiers. -/
theorem tiered_creationOrder (scopes : Scopes) (objects : List Resource) :
    Tiered scopes (creationOrder .standard scopes objects) := by
  have hsorted := pairwise_rank_creationOrder .standard scopes objects
  constructor
  · exact .of_rank hsorted fun a b => RankTable.rank_lt_of_definitions
  · exact .of_rank hsorted fun a b hns hb => hb.rank_lt hns
  · refine .of_rank hsorted fun a b ha hb => ?_
    rw [RankTable.rank_podCreating hb]
    exact Int.lt_of_le_of_lt (RankTable.rank_le_of_not_hasRule ha) (by decide)
  · refine .of_rank hsorted fun a b ha hb => ?_
    rw [RankTable.rank_webhooks hb]
    exact RankTable.rank_lt_of_not_webhooks ha

end Reconcile
