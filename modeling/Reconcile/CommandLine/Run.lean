import Reconcile.CommandLine.Help
import Reconcile.CommandLine.Invocation
import Reconcile.Gzip.Member
import Reconcile.Input.Expand
import Reconcile.Order.RankText
import Reconcile.Pattern.Language
import Reconcile.Schema.Checker

/-!
# Runs of the program

What a command line comes to. The rank table is read first, then the inputs; `show` prints the
objects. The other commands go on to connect to a cluster, for which there is no access here: what
they come to is how far the connection gets. The program is linked with gzip, and with the checker of
schemas and its language of patterns.
-/

namespace Reconcile.CommandLine

/-- What a run finds around it. -/
structure Surroundings where
  source : Input.Source
  environment : String → Option String

/-- What a run comes to. -/
inductive Ending where
  | printed (text : String)
  | refused (e : UsageError)
  | failed (f : Failure)

namespace Ending

/-- The status that tells success, failure and misuse apart. -/
def status : Ending → UInt32
  | .printed _ => 0
  | .failed _ => 1
  | .refused (.help _) | .refused .version => 0
  | .refused _ => 2

/-- What is printed. -/
def output (environment : String → Option String) : Ending → String
  | .printed text => text
  | .refused (.help command) => helpText environment command
  | .refused .version => versionLine
  | _ => ""

/-- What is said of a failure first. -/
def headline? : Ending → Option String
  | .failed f => some f.headline
  | _ => none

end Ending

namespace Surroundings

/-- The most bytes that an input may have. -/
def inputLimit (s : Surroundings) : UInt64 :=
  let digits? := (s.environment "KCFG_MAX_INPUT_BYTES").map fun text =>
    match text.toList with
    | '+' :: digits => digits
    | digits => digits
  match digits? with
  | none => Input.standardLimit
  | some digits =>
    let n := digits.foldl (fun n c => 10 * n + (c.toNat - '0'.toNat)) 0
    if digits.isEmpty || !digits.all Char.isDigit || n ≥ UInt64.size then Input.standardLimit
    else n.toUInt64

/-- The text of a file, if there is one in UTF-8. -/
def readText? (s : Surroundings) (path : String) : Option String :=
  match s.source.files.locate path with
  | .file content => String.fromUTF8? content
  | _ => none

/-- The rank table in a file, or the standard one. -/
def rankTable (s : Surroundings) : Option String → Except Failure RankTable
  | none => .ok .standard
  | some path =>
    match s.readText? path with
    | none => .error ((Failure.ofCause (.layer .io)).inContext ("reading rank table " ++ path))
    | some text =>
      match RankTable.ofYaml? text with
      | some table => .ok table
      | none => .error ((Failure.ofCause (.layer .yaml)).inContext ("parsing rank table " ++ path))

/-- Why a connection does not come about. -/
def connectionFailure (s : Surroundings) (inv : Invocation) : Failure :=
  let failed (context : String) : Failure := (Failure.ofCause (.layer .kube)).inContext context
  match inv.kubeconfig with
  | some path =>
    match (s.readText? path).bind Yaml.values? with
    | none => failed ("reading kubeconfig " ++ path)
    | some _ => failed "loading kubeconfig"
  | none => failed (if inv.context.isSome then "loading kubeconfig" else "inferring cluster config")

/-- Carries an invocation out; gives what is printed. -/
def carryOut (s : Surroundings) (inv : Invocation) : Except Failure String := do
  let _ ← s.rankTable inv.rankTable
  let objects ← Input.expand s.inputLimit s.source inv.files
  match inv.command with
  | .show format =>
    (checkDuplicates objects).mapError fun e => Failure.ofCause (.model e)
    return render format objects
  | _ => throw (s.connectionFailure inv)

/-- Runs a command line without the name of the program. -/
def run (s : Surroundings) (args : List String) : Ending :=
  match Invocation.parse s.environment args with
  | .error e => .refused e
  | .ok inv =>
    match s.carryOut inv with
    | .ok text => .printed text
    | .error f => .failed f

end Surroundings

end Reconcile.CommandLine
