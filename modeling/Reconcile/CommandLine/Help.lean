import Reconcile.CommandLine.Setting

/-!
# Help

What is printed about the commands and their settings: what a command does, how it is written, and a
table for each kind of thing that can be written. Descriptions stand in a column of their own unless
the names take up more than two fifths of a line and a description would not fit beside them; then
each stands below its name.
-/

namespace Reconcile.CommandLine

/-- The name of the program. -/
def programName : String := "kcfgctl"

/-- The version of the program. -/
def versionLine : String := programName ++ " 0.0.0\n"

/-- What a command does. -/
def CommandName.about : CommandName → String
  | .show => "Print the expanded objects"
  | .diff => "Compare objects with their live counterparts; fails when anything differs"
  | .update => "Create or patch objects, then garbage collect tagged leftovers"
  | .delete => "Delete objects, dependents first"
  | .validate => "Check objects against the schemas the server publishes"

namespace Setting

/-- What a setting means for a command; some commands say less. -/
def about (command : Option CommandName) : Setting → String
  | .verbose => "Raise log verbosity (-v debug, -vv trace); KCFG_LOG overrides"
  | .kubeconfig => "Kubeconfig file (default: $KUBECONFIG, then ~/.kube/config, then in-cluster)"
  | .context => "Kubeconfig context to use"
  | .scope => "Namespace for objects that do not name one (default: current context)"
  | .rankTable => "YAML file overriding the kind → rank table used for ordering"
  | .output => ""
  | .strategy => "all, subset or last-applied"
  | .create => "Create objects that do not exist yet"
  | .skipGc => "Skip garbage collection even when a tag is given"
  | .gcTag => "Tag stamped on applied objects; enables garbage collection"
  | .listMode => "cluster-scope or per-namespace"
  | .scopeSelector =>
    "Label selector limiting the namespaces searched for garbage (implies per-namespace)"
  | .dryRun => "Report what would change without changing anything"
  | .ignoreUnknown => if command = some .delete then "" else "Skip objects whose kind the server does not serve"
  | .gracePeriod => "Seconds the server waits before forcing deletion"
  | .help => "Print help"
  | .version => "Print version"

/-- The value that counts where none is given. -/
def standard? : Setting → Option String
  | .output => some "yaml"
  | .strategy => some "all"
  | .create => some "true"
  | .listMode => some "cluster-scope"
  | _ => none

/-- The possible values, where they are few. -/
def possible : Setting → List String
  | .output => ["yaml", "json"]
  | .create => ["true", "false"]
  | _ => []

/-- What is said of a setting in brackets: its variable, its standard value and the possible ones. -/
def remarks (environment : String → Option String) (setting : Setting) : List String :=
  (setting.environment?.map fun v => "[env: " ++ v ++ "=" ++ (environment v).getD "" ++ "]").toList
    ++ (setting.standard?.map fun text => "[default: " ++ text ++ "]").toList
    ++ (if setting.possible.isEmpty then []
        else ["[possible values: " ++ ", ".intercalate setting.possible ++ "]"])

/-- How the value of a setting is named. -/
def valueName (setting : Setting) : String :=
  let name := match setting with
    | .strategy => "STRATEGY"
    | _ => setting.long.map fun c => if c = '-' then '_' else c.toUpper
  match setting with
  | .verbose => "..."
  | _ =>
    match setting.takes with
    | .nothing => ""
    | .value => " <" ++ name ++ ">"
    | .valueOr _ => " [<" ++ name ++ ">]"

/-- How a setting is written. -/
def written (setting : Setting) : String :=
  (match setting.letter? with
    | some c => "-" ++ c.toString ++ ", "
    | none => "    ")
    ++ "--" ++ setting.long ++ setting.valueName

/-- What orders settings of one position: the letter, else the name. -/
def sortKey (setting : Setting) : String :=
  match setting.letter? with
  | some c => c.toLower.toString ++ (if c.isLower then "0" else "1")
  | none => setting.long

/-- The settings that are listed for a command, those of the command beside the common ones of the
same position. -/
def listed (command : Option CommandName) : List Setting :=
  let placed := ((command.map own).getD []).zipIdx ++ common.zipIdx
  let ordered := placed.mergeSort fun a b =>
    a.2 < b.2 || (a.2 = b.2 && a.1.sortKey ≤ b.1.sortKey)
  ordered.map (·.1) ++ (if command.isNone then [.help, .version] else [.help])

end Setting

/-- Names with their descriptions, one below the other. -/
def table (rows : List (String × String)) : String :=
  let widest := (rows.map (·.1.length)).foldl max 2
  let taken := widest + 4
  let below := 100 ≥ taken && taken > 40 && rows.any fun row => row.2.length > 100 - taken
  let lines := rows.map fun (name, about) =>
    if below then "  " ++ name ++ "\n          " ++ about
    else "  " ++ name ++ String.ofList (List.replicate (widest + 2 - name.length) ' ') ++ about
  "\n".intercalate lines

/-- The commands and what they do. -/
def commandTable : String :=
  table (CommandName.all.map (fun c => (c.text, c.about))
    ++ [("help", "Print this message or the help of the given subcommand(s)")])

/-- The settings for a command and what they mean. -/
def settingTable (environment : String → Option String) (command : Option CommandName) : String :=
  table ((Setting.listed command).map fun setting =>
    (setting.written, " ".intercalate (([setting.about command].filter (· ≠ "")) ++ setting.remarks environment)))

/-- The help for all commands or for one. -/
def helpText (environment : String → Option String) (command : Option CommandName) : String :=
  let options := "Options:\n" ++ settingTable environment command ++ "\n"
  match command with
  | none =>
    "Reconcile rendered resources against a cluster\n\nUsage: " ++ programName
      ++ " [OPTIONS] <COMMAND>\n\nCommands:\n" ++ commandTable ++ "\n\n" ++ options
  | some command =>
    command.about ++ "\n\nUsage: " ++ programName ++ " " ++ command.text
      ++ " [OPTIONS] <FILE>...\n\nArguments:\n"
      ++ table [("<FILE>...", "Rendered YAML/JSON files or directories; `-` reads stdin")] ++ "\n\n" ++ options

end Reconcile.CommandLine
