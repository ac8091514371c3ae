import Reconcile.Gvk

/-!
# Ranks

In which tier of a run the objects of a kind are handled. A rank table has rules, of which the
first that fits a kind decides; a kind without a rule has a rank by its scope. The default table
puts definitions of kinds first, then namespaces and the other cluster-wide kinds, then everything
else, then what creates pods, and admission webhooks last.
-/

namespace Reconcile

/-- Whether the objects of a kind live in namespaces. -/
inductive Scope where
  | namespaced
  | cluster
deriving DecidableEq

/-- The rank of a kind, in one group or in any. -/
structure RankRule where
  group : Option String
  kind : String
  rank : Int
deriving DecidableEq

/-- Whether a rule fits a kind. -/
def RankRule.fits (rule : RankRule) (gvk : Gvk) : Bool :=
  rule.kind == gvk.kind && rule.group.all (· == gvk.group)

/-- Rules, and the ranks of the kinds without one. -/
structure RankTable where
  rules : List RankRule
  /-- The rank of cluster-wide kinds. -/
  clusterScoped : Int
  /-- The rank of all other kinds, also of unknown ones. -/
  default : Int
deriving DecidableEq

namespace RankTable

/-- The kinds that create pods, with their groups. -/
def podCreating : List (String × String) :=
  [("", "Pod"), ("", "ReplicationController"), ("apps", "ReplicaSet"), ("extensions", "ReplicaSet"),
    ("apps", "Deployment"), ("extensions", "Deployment"), ("apps", "StatefulSet"), ("apps", "DaemonSet"),
    ("extensions", "DaemonSet"), ("batch", "Job"), ("batch", "CronJob")]

/-- The kinds that change or refuse other objects on their way in. -/
def webhooks : List (String × String) :=
  [("admissionregistration.k8s.io", "MutatingWebhookConfiguration"),
    ("admissionregistration.k8s.io", "ValidatingWebhookConfiguration")]

/-- The kinds that define kinds. -/
def definitions : List (String × String) :=
  [("apiextensions.k8s.io", "CustomResourceDefinition"), ("extensions", "ThirdPartyResource")]

/-- Rules that give kinds one rank. -/
def rulesAt (rank : Int) (kinds : List (String × String)) : List RankRule :=
  kinds.map fun kind => ⟨some kind.1, kind.2, rank⟩

/-- The table that holds unless another is given. -/
def standard : RankTable :=
  { rules :=
      rulesAt 10 definitions ++ rulesAt 20 [("", "Namespace")] ++ rulesAt 100 podCreating
        ++ rulesAt 200 webhooks
    clusterScoped := 20
    default := 50 }

/-- The rank of a kind; its scope may be unknown. -/
def rank (table : RankTable) (gvk : Gvk) (scope : Option Scope) : Int :=
  match table.rules.find? (·.fits gvk) with
  | some rule => rule.rank
  | none => if scope = some .cluster then table.clusterScoped else table.default

end RankTable

end Reconcile
