import Reconcile.CommandLine.Setting

/-!
# Scanning a command line

The arguments are read from left to right. A setting is written `--name value`, `--name=value`,
`-n value`, `-nvalue` or `-n=value`; letters for settings without a value may stand together. What
comes behind two dashes is no setting. A value is looked at once it is clear that nothing more belongs
to it, which is when the next setting or file is read; so of two mistakes the second may be found
first.
-/

namespace Reconcile.CommandLine

/-- What was read and is not taken in yet. -/
inductive Pending where
  | nothing
  /-- A setting that waits for its value. -/
  | awaiting (setting : Setting)
  | value (setting : Setting) (text : String)
  | files (paths : List String)

/-- How far a scan has come: where it is, what was taken in, and what was not yet. -/
structure Scan where
  command : Option CommandName
  given : Given
  pending : Pending

namespace Scan

/-- Nothing read yet. -/
def start (command : Option CommandName) : Scan := ⟨command, {}, .nothing⟩

/-- Whether a setting waits for its value. -/
def isAwaiting (s : Scan) : Bool :=
  match s.pending with
  | .awaiting _ => true
  | _ => false

/-- Takes in what is pending. -/
def settle (s : Scan) : Except UsageError Scan := do
  let given ← match s.pending with
    | .nothing => pure s.given
    | .awaiting setting =>
      match setting.takes with
      | .valueOr text => s.given.take s.command setting text
      | _ => .error .invalidValue
    | .value setting text => s.given.take s.command setting text
    | .files paths => s.given.takeFiles paths
  return { s with given := given, pending := .nothing }

/-- Takes in a setting whose value, if it has one, stands with it. -/
def accept (setting : Setting) (text : String) (s : Scan) : Except UsageError Scan := do
  let s ← s.settle
  return { s with given := ← s.given.take s.command setting text }

/-- Lets a setting wait for its value. -/
def await (setting : Setting) (s : Scan) : Except UsageError Scan := do
  return { ← s.settle with pending := .awaiting setting }

/-- The setting that fits, of those allowed here. -/
def setting? (s : Scan) (fits : Setting → Bool) : Option Setting := (Setting.allowed s.command).find? fits

/-- Reads a name behind two dashes, perhaps with a value behind an equals sign. -/
def readLong (cs : List Char) (s : Scan) : Except UsageError Scan :=
  match s.setting? (·.long = String.ofList (cs.takeWhile (· != '='))) with
  | none => .error .unknownArgument
  | some setting =>
    match setting.takes, cs.dropWhile (· != '=') with
    | .nothing, [] => s.accept setting ""
    | .nothing, _ => .error .needlessValue
    | _, [] => s.await setting
    | _, _ :: value => s.accept setting (String.ofList value)

/-- Reads letters behind one dash; the rest behind a letter for a setting with a value is the value. -/
def readLetters : List Char → Scan → Except UsageError Scan
  | [], s => .ok s
  | c :: rest, s =>
    match s.setting? (·.letter? = some c) with
    | none => .error .unknownArgument
    | some setting =>
      if setting.takes = .nothing then do readLetters rest (← s.accept setting "")
      else
        match rest with
        | [] => s.await setting
        | '=' :: value => s.accept setting (String.ofList value)
        | value => s.accept setting (String.ofList value)

/-- Reads a file, which stands behind a command only. -/
def readFile (path : String) (s : Scan) : Except UsageError Scan :=
  match s.command, s.pending with
  | none, _ => .error .unknownCommand
  | some _, .files paths => .ok { s with pending := .files (paths ++ [path]) }
  | some _, _ => do return { ← s.settle with pending := .files [path] }

/-- Reads an argument that starts no command. -/
def readArgument (arg : String) (s : Scan) : Except UsageError Scan :=
  match arg.toList, s.pending with
  | '-' :: '-' :: name, _ => s.readLong name
  | '-' :: c :: letters, _ => s.readLetters (c :: letters)
  | _, .awaiting setting => .ok { s with pending := .value setting arg }
  | _, _ => s.readFile arg

/-- What is shown when help is asked for by a word; behind it stands at most one command. -/
def helpFor : List String → UsageError
  | [] | ["help"] => .help none
  | [word] =>
    match CommandName.ofText? word with
    | some command => .help (some command)
    | none => .unknownCommand
  | _ => .unknownCommand

/-- Reads the arguments behind two dashes. A command cannot stand there. -/
def readFiles : List String → Scan → Except UsageError Scan
  | [], s => .ok s
  | path :: rest, s =>
    if s.command.isNone && (path = "help" || (CommandName.ofText? path).isSome) then .error .unknownArgument
    else do readFiles rest (← s.readFile path)

/-- Reads arguments to the end or up to a command; gives the command and what stands behind it. -/
def read : List String → Scan → Except UsageError (Scan × Option (CommandName × List String))
  | [], s => .ok (s, none)
  | arg :: rest, s =>
    let isWord := s.command.isNone && !s.isAwaiting
    if isWord && arg = "help" then .error (helpFor rest)
    else
      match (if isWord then CommandName.ofText? arg else none) with
      | some command => .ok (s, some (command, rest))
      | none =>
        if arg = "--" then do return (← readFiles rest s, none)
        else do read rest (← s.readArgument arg)

end Scan

end Reconcile.CommandLine
