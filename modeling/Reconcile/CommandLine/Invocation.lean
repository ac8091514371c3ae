import Reconcile.CommandLine.Scan

/-!
# Invocations

What a command line asks for. `Invocation.parse` reads the arguments behind the name of the program.
A common setting that stands behind the command counts more than one before it, and both count more
than a variable.
-/

namespace Reconcile.CommandLine

/-- A command with its settings. -/
inductive Command where
  | show (format : OutputFormat)
  | diff (strategy : DiffStrategy)
  | update (options : UpdateOptions)
  | delete (gracePeriod : Option UInt32) (ignoreUnknown : Bool)
  | validate

/-- What a command line asks for. -/
structure Invocation where
  verbose : Nat
  kubeconfig : Option String
  context : Option String
  /-- The namespace for objects that name none. -/
  scope : Option String
  rankTable : Option String
  command : Command
  files : List String

/-- The command with what is given for it and the standard for the rest. -/
def Given.command (g : Given) : CommandName → Command
  | .show => .show (g.output.getD .yaml)
  | .diff => .diff (g.strategy.getD .all)
  | .update => .update {
      create := g.create.getD true
      gcTag := g.gcTag
      skipGc := g.skipGc
      listMode := g.listMode.getD .clusterScope
      scopeSelector := g.scopeSelector
      dryRun := g.dryRun
      ignoreUnknown := g.ignoreUnknown }
  | .delete => .delete g.gracePeriod g.ignoreUnknown
  | .validate => .validate

namespace Invocation

/-- Reads the arguments behind a command. -/
def parseBehind (environment : String → Option String) (command : CommandName) (args : List String) :
    Except UsageError Given := do
  let (scan, _) ← (Scan.start (some command)).read args
  let given ← (← scan.settle).given.takeEnvironment environment (some command) (Setting.own command)
  if given.files.isEmpty then throw .missingFile
  return given

/-- Reads a command line without the name of the program. -/
def parse (environment : String → Option String) (args : List String) : Except UsageError Invocation := do
  let (scan, found) ← (Scan.start none).read args
  match found with
  | none =>
    let given ← (← scan.settle).given.takeEnvironment environment none Setting.common
    throw (if Setting.common.any given.has then .missingCommand else .nothingGiven)
  | some (command, rest) =>
    let inner ← parseBehind environment command rest
    let outer := (← scan.settle).given
    return {
      verbose := (inner.verbose <|> outer.verbose).getD 0
      kubeconfig := inner.kubeconfig <|> outer.kubeconfig
      context := inner.context <|> outer.context <|> Setting.context.environment?.bind environment
      scope := inner.scope <|> outer.scope <|> Setting.scope.environment?.bind environment
      rankTable := inner.rankTable <|> outer.rankTable
      command := inner.command command
      files := inner.files }

end Invocation

end Reconcile.CommandLine
