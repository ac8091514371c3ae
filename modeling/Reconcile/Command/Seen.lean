import Reconcile.Resource

/-!
# Objects seen in a run

Which objects a run has handled, so that garbage collection leaves them alone. An object with a
uid is known by it: the uid stays when the object is served under several kinds and changes when it
is created anew under its name. An object without one, which a dry run would create, is known by
its identity.
-/

namespace Reconcile

/-- The objects that a run has handled. -/
structure Seen where
  uids : List String
  unsaved : List Identity

namespace Seen

/-- No objects. -/
def empty : Seen := ⟨[], []⟩

/-- Adds an object. -/
def insert (r : Resource) (s : Seen) : Seen :=
  match r.uid? with
  | some uid => { s with uids := s.uids.insert uid }
  | none => { s with unsaved := s.unsaved.insert r.identity }

/-- Whether an object was handled. -/
def contains (r : Resource) (s : Seen) : Bool :=
  r.uid?.any (s.uids.contains ·) || s.unsaved.contains r.identity

/-- How many objects were handled. -/
def size (s : Seen) : Nat := s.uids.length + s.unsaved.length

/-- Whether no object was handled. -/
def isEmpty (s : Seen) : Bool := s.uids.isEmpty && s.unsaved.isEmpty

end Seen

end Reconcile
