import Reconcile.Cluster.Session
import Reconcile.Comparison.Basic
import Reconcile.Order.Basic

/-!
# Diffs

Every object given is compared with what the server holds, in the order of listings, and what is
found is printed. The diff fails once all objects were looked at, if one differs or is missing.
-/

namespace Reconcile.Program

variable [Compression]

/-- Prints how one object compares with the server's; says whether they differ. -/
def diffOne (defaultScope : String) (strategy : DiffStrategy) (r : Resource) : Program Bool := do
  let kind ← (resolve r.gvk).inContext r.identity.text
  let target := targetScope defaultScope kind r
  let object := r.placedIn target
  let description ← describe object
  match ← request (.get kind target object.name) with
  | .ok live =>
    let (comparison, notices) := Comparison.between object live strategy
    tellAll notices
    if comparison.hasDifferences then
      print (comparison.unified description)
      return true
    else
      print ("*** " ++ description ++ " has no differences\n")
      return false
  | .error e =>
    if e.isNotFound then
      print ("---- " ++ description ++ " doesn't exist on server\n")
      return true
    else .fail ((Failure.ofCause (.api e)).inContext ("getting " ++ description))

/-- Compares objects, one after the other; says whether any differs. -/
def diffAll (defaultScope : String) (strategy : DiffStrategy) : List Resource → Program Bool
  | [] => return false
  | r :: rest => do
    let differs ← diffOne defaultScope strategy r
    let others ← diffAll defaultScope strategy rest
    return differs || others

/-- Compares objects with the server's and fails if any differs. -/
def diff (defaultScope : String) (strategy : DiffStrategy) (objects : List Resource) : Program Unit := do
  ofExcept ((checkDuplicates objects).mapError fun e => Failure.ofCause (.model e))
  let differs ← diffAll defaultScope strategy (alphabeticalOrder objects)
  if differs then .fail Cause.differences else return ()

end Reconcile.Program
