import Reconcile.Command.Update
import Reconcile.Render

/-!
# Settings of a command line

What can be said on a command line: five commands, the settings of each, and the settings of all.
`Given.put` takes a value in; a setting that is given twice or has a value of another form is refused.
-/

namespace Reconcile.CommandLine

/-- The commands. -/
inductive CommandName where
  | show | diff | update | delete | validate
deriving DecidableEq

namespace CommandName

/-- All commands, in the order in which they are presented. -/
def all : List CommandName := [.show, .diff, .update, .delete, .validate]

/-- The word for a command. -/
def text : CommandName → String
  | .show => "show"
  | .diff => "diff"
  | .update => "update"
  | .delete => "delete"
  | .validate => "validate"

/-- The command that a word stands for. -/
def ofText? (word : String) : Option CommandName := all.find? (·.text = word)

end CommandName

/-- Why a command line is not carried out. -/
inductive UsageError where
  /-- Help is asked for, for all commands or for one. -/
  | help (command : Option CommandName)
  /-- The version is asked for. -/
  | version
  /-- Nothing is asked for. -/
  | nothingGiven
  | missingCommand
  | unknownCommand
  | unknownArgument
  /-- A setting is given twice. -/
  | repeatedSetting
  | missingFile
  /-- A value is missing or is none of the possible ones. -/
  | invalidValue
  /-- A value cannot be read. -/
  | unreadableValue
  /-- A value is given to a setting that takes none. -/
  | needlessValue
deriving DecidableEq

/-- What is said of a refused command line. -/
def UsageError.message : UsageError → String
  | .help _ | .version | .nothingGiven => ""
  | .missingCommand => "a command is missing"
  | .unknownCommand => "there is no such command"
  | .unknownArgument => "there is no such setting"
  | .repeatedSetting => "a setting is given twice"
  | .missingFile => "a file is missing"
  | .invalidValue => "a setting has no value or none of the possible ones"
  | .unreadableValue => "the value of a setting cannot be read"
  | .needlessValue => "a setting without a value has one"

/-- The settings. -/
inductive Setting where
  | verbose | kubeconfig | context | scope | rankTable
  | output
  | strategy
  | create | skipGc | gcTag | listMode | scopeSelector | dryRun | ignoreUnknown
  | gracePeriod
  | help | version
deriving DecidableEq

/-- Whether a setting has a value. -/
inductive Takes where
  | nothing
  | value
  /-- A value that may be left out and is then the given one. -/
  | valueOr (text : String)
deriving DecidableEq

namespace Setting

/-- The name of a setting behind two dashes. -/
def long : Setting → String
  | .verbose => "verbose"
  | .kubeconfig => "kubeconfig"
  | .context => "context"
  | .scope => "namespace"
  | .rankTable => "rank-table"
  | .output => "output"
  | .strategy => "diff-strategy"
  | .create => "create"
  | .skipGc => "skip-gc"
  | .gcTag => "gc-tag"
  | .listMode => "gc-list-mode"
  | .scopeSelector => "gc-ns-selector"
  | .dryRun => "dry-run"
  | .ignoreUnknown => "ignore-unknown"
  | .gracePeriod => "grace-period"
  | .help => "help"
  | .version => "version"

/-- The letter for a setting behind one dash. -/
def letter? : Setting → Option Char
  | .verbose => some 'v'
  | .scope => some 'n'
  | .output => some 'o'
  | .help => some 'h'
  | .version => some 'V'
  | _ => none

/-- Whether a setting has a value. -/
def takes : Setting → Takes
  | .verbose | .skipGc | .dryRun | .ignoreUnknown | .help | .version => .nothing
  | .create => .valueOr "true"
  | _ => .value

/-- The variable of the environment that counts where a setting is not given. -/
def environment? : Setting → Option String
  | .context => some "KCFG_CONTEXT"
  | .scope => some "KCFG_NAMESPACE"
  | .strategy => some "KCFG_DIFF_STRATEGY"
  | .gcTag => some "KCFG_GC_TAG"
  | .listMode => some "KCFG_GC_LIST_MODE"
  | _ => none

/-- The settings that may stand before and behind the command. -/
def common : List Setting := [.verbose, .kubeconfig, .context, .scope, .rankTable]

/-- The settings of a command. -/
def own : CommandName → List Setting
  | .show => [.output]
  | .diff => [.strategy]
  | .update => [.create, .skipGc, .gcTag, .listMode, .scopeSelector, .dryRun, .ignoreUnknown]
  | .delete => [.gracePeriod, .ignoreUnknown]
  | .validate => []

/-- The settings that may stand behind a command, or before it. -/
def allowed : Option CommandName → List Setting
  | none => common ++ [.help, .version]
  | some command => own command ++ common ++ [.help]

end Setting

/-- What is given before a command or behind it. -/
structure Given where
  verbose : Option Nat := none
  kubeconfig : Option String := none
  context : Option String := none
  scope : Option String := none
  rankTable : Option String := none
  output : Option OutputFormat := none
  strategy : Option DiffStrategy := none
  create : Option Bool := none
  skipGc : Bool := false
  gcTag : Option String := none
  listMode : Option ListMode := none
  scopeSelector : Option String := none
  dryRun : Bool := false
  ignoreUnknown : Bool := false
  gracePeriod : Option UInt32 := none
  files : List String := []

namespace Given

/-- Whether a setting is given. -/
def has (g : Given) : Setting → Bool
  | .verbose => g.verbose.isSome
  | .kubeconfig => g.kubeconfig.isSome
  | .context => g.context.isSome
  | .scope => g.scope.isSome
  | .rankTable => g.rankTable.isSome
  | .output => g.output.isSome
  | .strategy => g.strategy.isSome
  | .create => g.create.isSome
  | .skipGc => g.skipGc
  | .gcTag => g.gcTag.isSome
  | .listMode => g.listMode.isSome
  | .scopeSelector => g.scopeSelector.isSome
  | .dryRun => g.dryRun
  | .ignoreUnknown => g.ignoreUnknown
  | .gracePeriod => g.gracePeriod.isSome
  | .help | .version => false

/-- A path, which is not empty. -/
def readPath (text : String) : Except UsageError String :=
  if text = "" then .error .invalidValue else .ok text

/-- One of the two truth values. -/
def readTruth (text : String) : Except UsageError Bool :=
  if text = "true" then .ok true else if text = "false" then .ok false else .error .invalidValue

/-- One of the formats. -/
def readFormat (text : String) : Except UsageError OutputFormat :=
  if text = "yaml" then .ok .yaml else if text = "json" then .ok .json else .error .invalidValue

/-- A number of 32 bits, perhaps with a sign. -/
def readSeconds (text : String) : Except UsageError UInt32 :=
  let size := match text.toList with
    | '-' :: digits => if digits.head? = some '+' then none else (ServerVersion.parseNumber digits).filter (· == 0)
    | cs => ServerVersion.parseNumber cs
  match size with
  | some n => .ok n
  | none => .error .unreadableValue

/-- Takes a setting in for which nothing is given yet; verbosity counts how often. -/
def put (command : Option CommandName) (setting : Setting) (text : String) (g : Given) :
    Except UsageError Given :=
  match setting with
  | .verbose => .ok { g with verbose := some (min 255 (g.verbose.getD 0 + 1)) }
  | .kubeconfig => do return { g with kubeconfig := some (← readPath text) }
  | .context => .ok { g with context := some text }
  | .scope => .ok { g with scope := some text }
  | .rankTable => do return { g with rankTable := some (← readPath text) }
  | .output => do return { g with output := some (← readFormat text) }
  | .strategy => do
    return { g with strategy := some (← (DiffStrategy.parse text).mapError fun _ => .unreadableValue) }
  | .create => do return { g with create := some (← readTruth text) }
  | .skipGc => .ok { g with skipGc := true }
  | .gcTag => .ok { g with gcTag := some text }
  | .listMode => do
    return { g with listMode := some (← (ListMode.parse text).mapError fun _ => .unreadableValue) }
  | .scopeSelector => .ok { g with scopeSelector := some text }
  | .dryRun => .ok { g with dryRun := true }
  | .ignoreUnknown => .ok { g with ignoreUnknown := true }
  | .gracePeriod => do return { g with gracePeriod := some (← readSeconds text) }
  | .help => .error (.help command)
  | .version => .error .version

/-- Takes a setting in as it stands on the command line: once, unless it is counted. -/
def take (command : Option CommandName) (setting : Setting) (text : String) (g : Given) :
    Except UsageError Given :=
  if g.has setting && setting != .verbose then .error .repeatedSetting else g.put command setting text

/-- Takes files in. -/
def takeFiles (files : List String) (g : Given) : Except UsageError Given := do
  return { g with files := g.files ++ (← files.mapM readPath) }

/-- Takes settings from the environment where they are not given. -/
def takeEnvironment (environment : String → Option String) (command : Option CommandName) :
    List Setting → Given → Except UsageError Given
  | [], g => .ok g
  | setting :: rest, g => do
    let text? := if g.has setting then none else setting.environment?.bind environment
    let g ← match text? with
      | some text => g.put command setting text
      | none => pure g
    takeEnvironment environment command rest g

end Given

end Reconcile.CommandLine
