import Reconcile.Input.FileTree
import Reconcile.Input.Walk
import Reconcile.Json.Parser
import Reconcile.Yaml.Value

/-!
# Expansion of inputs

From paths to objects: a path is a file, a directory of YAML and JSON files, or a dash for the
standard input. A file is read up to a limit in bytes; a longer one is an error and is never read
in part. YAML files may hold several documents, JSON files hold one.
-/

namespace Reconcile.Input

/-- What inputs are read from: the files, and what is left of the standard input. -/
structure Source where
  files : FileTree
  standardInput : ByteArray

/-- The most bytes that an input may have, unless another limit is set. -/
def standardLimit : UInt64 := 8 * 1024 * 1024

/-- The files that a path stands for. -/
def filesFor (files : FileTree) (path : String) : Except Failure (List String) :=
  if path = "-" then .ok [path]
  else
    match files.locate path with
    | .file _ => .ok [path]
    | .directory names =>
      let lead := if path.toList.getLast? = some '/' then path else path ++ "/"
      .ok (((files.filesIn names).map (lead ++ ·)).filter fun file =>
        fileExtension file ∈ [some "yaml", some "yml", some "json"])
    | .nothing => .error (Cause.noSuchFile path)

/-- How many bytes are read of an input: one more than the limit, in 64-bit arithmetic. -/
def readSize (limit : UInt64) : Nat := (limit + 1).toNat

/-- The text of an input, unless it is longer than the limit or is not UTF-8. -/
def readText (limit : UInt64) (content : ByteArray) : Except Failure String :=
  match String.fromUTF8? (content.extract 0 (readSize limit)) with
  | none => .error (Cause.layer .io)
  | some text =>
    if text.utf8ByteSize > limit.toNat then .error (Cause.inputTooLong limit.toNat) else .ok text

/-- How the documents of an input are written. -/
inductive Format where
  | yaml
  | json
deriving DecidableEq

/-- The format of an input, by its extension; the standard input is YAML. -/
def format? (path : String) : Option Format :=
  if path = "-" then some .yaml
  else
    match fileExtension path with
    | some "yaml" | some "yml" => some .yaml
    | some "json" => some .json
    | _ => none

/-- The documents of a text. -/
def parseDocuments (format : Format) (text : String) : Except Failure (List Json) :=
  match format with
  | .yaml =>
    match Yaml.values? text with
    | some docs => .ok docs
    | none => .error (Cause.layer .yaml)
  | .json =>
    match Json.parse? text with
    | some doc => .ok [doc]
    | none => .error (Cause.layer .json)

/-- The documents of an input, and what is left to read of the source. -/
def readDocuments (limit : UInt64) (source : Source) (path : String) :
    Except Failure (List Json × Source) := do
  let (content, source) :=
    if path = "-" then
      let all := source.standardInput
      (all, { source with standardInput := all.extract (readSize limit) all.size })
    else
      match source.files.locate path with
      | .file content => (content, source)
      | _ => (ByteArray.empty, source)
  let text ← readText limit content
  match format? path with
  | some format => return (← parseDocuments format text, source)
  | none => .error (Cause.unknownExtension path)

/-- Appends the objects of documents, the first of which has the given number. -/
def collectDocuments (path : String) (number : Nat) :
    List Json → List Resource → Except Failure (List Resource)
  | [], found => .ok found
  | doc :: rest, found =>
    match doc.collect "$" found with
    | .ok found => collectDocuments path (number + 1) rest found
    | .error e =>
      .error ((Failure.ofCause (.model e)).inContext (path ++ " (document " ++ toString number ++ ")"))

/-- Appends the objects of files. -/
def collectFiles (limit : UInt64) :
    List String → Source → List Resource → Except Failure (List Resource × Source)
  | [], source, found => .ok (found, source)
  | path :: rest, source, found => do
    let (docs, source) ← (readDocuments limit source path).mapError (·.inContext ("reading " ++ path))
    collectFiles limit rest source (← collectDocuments path 0 docs found)

/-- Appends the objects that paths stand for. -/
def expandInto (limit : UInt64) :
    List String → Source → List Resource → Except Failure (List Resource)
  | [], _, found => .ok found
  | path :: rest, source, found => do
    let (found, source) ← collectFiles limit (← filesFor source.files path) source found
    expandInto limit rest source found

/-- The objects that paths stand for, in order. -/
def expand (limit : UInt64) (source : Source) (paths : List String) : Except Failure (List Resource) :=
  expandInto limit paths source []

end Reconcile.Input
