import Reconcile.Resource

/-!
# Object stores

Objects under the identities by which a server knows them, in the order of these. Looking up,
putting and removing follow the laws of a map, stated beside them.
-/

namespace Reconcile

/-- Objects under their identities. -/
abbrev Store := List (Identity × Resource)

namespace Store

/-- The object under an identity. -/
def get? (id : Identity) : Store → Option Resource
  | [] => none
  | (k, r) :: rest => if k = id then some r else get? id rest

/-- Puts an object under an identity, in the place of one that was there. -/
def insert (id : Identity) (object : Resource) : Store → Store
  | [] => [(id, object)]
  | (k, r) :: rest =>
    if k = id then (id, object) :: rest
    else if id.compare k = .lt then (id, object) :: (k, r) :: rest
    else (k, r) :: insert id object rest

/-- Removes the object under an identity. -/
def erase (id : Identity) : Store → Store
  | [] => []
  | (k, r) :: rest => if k = id then erase id rest else (k, r) :: erase id rest

/-- The objects in order. -/
def objects (s : Store) : List Resource := s.map (·.2)

/-- Nothing is in the empty store. -/
@[simp] theorem get?_nil (id : Identity) : Store.get? id [] = none := rfl

/-- A store is looked through from the front. -/
theorem get?_cons (id k : Identity) (r : Resource) (rest : Store) :
    Store.get? id ((k, r) :: rest) = if k = id then some r else Store.get? id rest := rfl

/-- What was put under an identity is found there, and nothing else changes. -/
theorem get?_insert (id k : Identity) (object : Resource) (s : Store) :
    (s.insert k object).get? id = if k = id then some object else s.get? id := by
  induction s with
  | nil => rfl
  | cons entry rest ih =>
    obtain ⟨k', r'⟩ := entry
    unfold insert
    split
    next h => subst h; simp only [get?_cons]; split <;> rfl
    next h =>
      split
      next => simp only [get?_cons]
      next => simp only [get?_cons, ih]; grind

/-- What was removed is not found, and nothing else changes. -/
theorem get?_erase (id k : Identity) (s : Store) :
    (s.erase k).get? id = if k = id then none else s.get? id := by
  induction s with
  | nil => simp [erase]
  | cons entry rest ih =>
    obtain ⟨k', r'⟩ := entry
    unfold erase
    split
    next h => subst h; rw [ih]; simp only [get?_cons]; split <;> rfl
    next h => simp only [get?_cons, ih]; grind

end Store

end Reconcile
