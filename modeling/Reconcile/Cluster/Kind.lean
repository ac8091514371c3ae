import Reconcile.Order.Rank

/-!
# Served kinds

What a server tells about each kind that it serves: the name of the kind in addresses, whether
its objects live in namespaces, and what can be done with them.
-/

namespace Reconcile

/-- A kind that a server serves. -/
structure KindInfo where
  gvk : Gvk
  plural : String
  scope : Scope
  verbs : List String
deriving DecidableEq

namespace KindInfo

/-- All that can be done with the objects of a kind. -/
def everyVerb : List String := ["create", "delete", "get", "list", "patch", "update", "watch"]

/-- Whether something can be done with the objects of a kind. -/
def supports (verb : String) (kind : KindInfo) : Bool := kind.verbs.contains verb

/-- Whether the objects of a kind live in namespaces. -/
def isNamespaced (kind : KindInfo) : Bool := kind.scope == .namespaced

/-- What is served under a kind: the first entry for it. -/
def find (kinds : List KindInfo) (gvk : Gvk) : Option KindInfo := kinds.find? (·.gvk == gvk)

/-- The scopes of kinds; of two entries for one kind the last counts. -/
def scopes (kinds : List KindInfo) (gvk : Gvk) : Option Scope := (find kinds.reverse gvk).map (·.scope)

end KindInfo

end Reconcile
