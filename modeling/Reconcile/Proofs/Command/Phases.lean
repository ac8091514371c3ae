import Reconcile.Command.Update
import Reconcile.Proofs.Order.Basic
import Reconcile.Proofs.Program.Run

/-!
# The phases of an update

An update brings all its objects onto the server before it collects anything, and a collection has
found all the garbage before it deletes any: `Program.update_eq_phases` and
`Program.collect_eq_phases` cut the two programs in between.
-/

namespace Reconcile.Program

section Update

variable [Compression]

/-- The first phase of an update: all objects are brought onto the server. -/
def applyPhase (defaultScope : String) (options : UpdateOptions) (table : RankTable)
    (objects : List Resource) : Program UpdateReport := do
  ofExcept (checkUpdate objects options.gcTag)
  let kinds ← demand .kinds
  tell (.updateBegins objects.length options.dryRun)
  applyAll defaultScope options (creationOrder table (KindInfo.scopes kinds) objects) .empty

/-- The second phase of an update: what fell out of the set is collected, if that was asked for. -/
def collectPhase (options : UpdateOptions) (table : RankTable) (report : UpdateReport) :
    Program UpdateReport :=
  match options.gcTag, options.skipGc with
  | some tag, false => do
    let collected ← collect
      { tag, listMode := options.listMode, scopeSelector := options.scopeSelector
        dryRun := options.dryRun } report.seen table
    return { report with gc := some collected }
  | _, _ => return report

/-- An update is one phase after the other. -/
theorem update_eq_phases (defaultScope : String) (options : UpdateOptions) (table : RankTable)
    (objects : List Resource) :
    update defaultScope options table objects =
      applyPhase defaultScope options table objects >>= collectPhase options table := by
  simp only [applyPhase, bind_assoc]
  rfl

end Update

/-- What is known when the search for garbage is over. -/
structure Found where
  version : ServerVersion
  kinds : List KindInfo
  gathering : Gathering

/-- The first phase of a collection: all garbage is found. -/
def search (options : CollectOptions) (seen : Seen) : Program Found := do
  let version ← demand .version
  let kinds ← demand .kinds
  let scopes ← scopesToList options kinds
  let gathering ← gather options.tag seen (listings kinds scopes) .empty
  return { version, kinds, gathering }

/-- The second phase of a collection: the garbage is deleted. -/
def sweep (options : CollectOptions) (table : RankTable) (found : Found) : Program CollectReport :=
  collectAll (.forVersion found.version) options.dryRun
    (deletionOrder table (KindInfo.scopes found.kinds) found.gathering.doomed)
    { considered := found.gathering.considered, deleted := [], wouldDelete := [], raced := 0
      forbiddenLists := found.gathering.forbiddenLists }

/-- So is a collection. -/
theorem collect_eq_phases (options : CollectOptions) (seen : Seen) (table : RankTable) :
    collect options seen table = search options seen >>= sweep options table := by
  simp only [search, bind_assoc]
  rfl

end Reconcile.Program
