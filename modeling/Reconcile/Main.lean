import Reconcile.CommandLine.Run

/-!
# The program

Reads the environment and the files that the command line names, lets `Surroundings.run` decide, and
prints what it came to.
-/

namespace Reconcile.CommandLine

/-- The names in the environment that give settings. -/
def countedNames : List String :=
  "KCFG_MAX_INPUT_BYTES" :: ["KCFG_CONTEXT", "KCFG_NAMESPACE", "KCFG_DIFF_STRATEGY", "KCFG_GC_TAG",
    "KCFG_GC_LIST_MODE"]

/-- What of these names is set, with its value. -/
def readEnvironment : IO (List (String × String)) :=
  countedNames.filterMapM fun name => do return (← IO.getEnv name).map fun value => (name, value)

/-- The files that can be read, of those that an invocation names. -/
def readFiles (inv : Invocation) : IO (List (String × FileEntry)) :=
  (inv.files ++ inv.rankTable.toList ++ inv.kubeconfig.toList).filterMapM fun (path : String) => do
    try return some (path, .file (← IO.FS.readBinFile path)) catch _ => return none

/-- The bytes of the standard input, if an invocation reads it. -/
def readStandardInput (inv : Invocation) : IO ByteArray := do
  if inv.files.contains "-" then (← IO.getStdin).readBinToEnd else return .empty

/-- What the run of a command line finds around it. -/
def readSurroundings (args : List String) : IO Surroundings := do
  let known ← readEnvironment
  let environment (name : String) : Option String := known.lookup name
  match Invocation.parse environment args with
  | .error _ => return ⟨⟨.ofList [] [], .empty⟩, environment⟩
  | .ok inv => return ⟨⟨.ofList [] (← readFiles inv), ← readStandardInput inv⟩, environment⟩

end Reconcile.CommandLine

open Reconcile CommandLine in
/-- Runs the program. -/
def main (args : List String) : IO UInt32 := do
  let surroundings ← readSurroundings args
  let ending := surroundings.run args
  IO.print (ending.output surroundings.environment)
  match ending with
  | .failed f => IO.eprintln ("Error: " ++ f.message)
  | .refused .nothingGiven => IO.eprint (helpText surroundings.environment none)
  | .refused e => if ending.status ≠ 0 then IO.eprintln ("error: " ++ e.message)
  | .printed _ => pure ()
  return ending.status
