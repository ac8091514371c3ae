import Reconcile.Order.Rank
import Reconcile.Resource

/-!
# Orders of objects

Objects are created in the order of their ranks, and within a rank by namespace, kind, name and
API version; they are deleted in exactly the reverse order. Listings for people use the same order
without ranks. None of the orders depends on how the objects were given.
-/

namespace Reconcile

/-- What decides the place of an object. -/
structure SortKey where
  rank : Int
  scope : String
  kind : String
  name : String
  apiVersion : String
deriving DecidableEq

namespace SortKey

/-- Lexicographic order. -/
def compare (a b : SortKey) : Ordering :=
  (Ord.compare a.rank b.rank).then <| (Ord.compare a.scope b.scope).then <|
    (Ord.compare a.kind b.kind).then <| (Ord.compare a.name b.name).then <|
      Ord.compare a.apiVersion b.apiVersion

/-- Whether a key comes no later than another. -/
def le (a b : SortKey) : Bool := (a.compare b).isLE

/-- The key of an object with a rank. -/
def ofResource (rank : Int) (r : Resource) : SortKey :=
  ⟨rank, r.scope?.getD "", r.kind, r.name, r.apiVersion⟩

end SortKey

/-- Sorts objects by a key, equal keys in the order given. -/
def sortByKey (key : Resource → SortKey) (objects : List Resource) : List Resource :=
  objects.mergeSort fun a b => (key a).le (key b)

/-- What is known about the scopes of kinds. -/
abbrev Scopes := Gvk → Option Scope

/-- The key of an object in the order of creation. -/
def creationKey (table : RankTable) (scopes : Scopes) (r : Resource) : SortKey :=
  .ofResource (table.rank r.gvk (scopes r.gvk)) r

/-- The order in which objects are created. -/
def creationOrder (table : RankTable) (scopes : Scopes) (objects : List Resource) : List Resource :=
  sortByKey (creationKey table scopes) objects

/-- The order in which objects are deleted. -/
def deletionOrder (table : RankTable) (scopes : Scopes) (objects : List Resource) : List Resource :=
  (creationOrder table scopes objects).reverse

/-- The order of listings. -/
def alphabeticalOrder (objects : List Resource) : List Resource := sortByKey (.ofResource 0) objects

end Reconcile
