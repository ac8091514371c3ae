import Reconcile.Cluster.Session
import Reconcile.Schema.Validator

/-!
# Validation

Every object given is checked against the schema that the server publishes for its kind, and each
problem is reported. Known kinds without a schema are skipped. The validation fails once all
objects were looked at, if one had a problem.
-/

namespace Reconcile

/-- What a validation came to. -/
structure ValidationReport where
  /-- How many objects were checked against a schema. -/
  checked : Nat
  /-- The objects of known kinds without a schema. -/
  skipped : List Identity
deriving DecidableEq

namespace Program

/-- What is wrong with an object, or nothing if that cannot be said of a known kind. -/
def verdict (known : Bool) (gvk : Gvk) (found : Except Failure (Option (List String))) :
    Option (List String) :=
  match found with
  | .ok (some problems) => some problems
  | .ok none =>
    if known then none else some ["unable to fetch schema: nothing published for " ++ gvk.text]
  | .error f => some ["unable to fetch schema: " ++ f.message]

variable [SchemaLibrary]

/-- Checks objects, one after the other; says whether any had a problem. -/
def validateAll (source : SchemaSource) :
    List Resource → Validator → ValidationReport → Bool → Program (ValidationReport × Bool)
  | [], _, report, failed => return (report, failed)
  | r :: rest, validator, report, failed => do
    let description ← describe r
    tell (.validating description)
    let known ← kindInfo r.gvk
    let (found, validator) := validator.problems source r
    match verdict known.isSome r.gvk found with
    | none =>
      tell (.noSchema r.apiVersion description)
      validateAll source rest validator { report with skipped := report.skipped ++ [r.identity] } failed
    | some problems =>
      tellAll (problems.map (.problem description))
      validateAll source rest validator { report with checked := report.checked + 1 }
        (failed || !problems.isEmpty)

/-- Checks objects and fails if one had a problem. -/
def validate (source : SchemaSource) (objects : List Resource) : Program ValidationReport := do
  let (report, failed) ← validateAll source objects .empty ⟨0, []⟩ false
  if failed then .fail Cause.invalidObjects else return report

end Program

end Reconcile
