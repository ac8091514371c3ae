import Reconcile.Gvk
import Reconcile.Json.Basic

/-!
# Failures

Everything that can go wrong, by cause. A failure is a cause and the contexts it passed through,
the outermost first; its message is the contexts and the text of the cause, joined by colons.
A cause that lies in a layer below (text that is not YAML, JSON or base64, bytes that cannot be
read, an answer that is not the protocol's) is reported by the name of the layer alone.
-/

namespace Reconcile

/-- The layers below, whose failures are not told apart. -/
inductive Layer where
  | yaml | json | base64 | io | kube
deriving DecidableEq

/-- What stands in a message for a failure of a layer. -/
def Layer.text : Layer → String
  | .yaml => "<Yaml>"
  | .json => "<Json>"
  | .base64 => "<Base64>"
  | .io => "<Io>"
  | .kube => "<Kube>"

/-- Why a document is not an acceptable object or set of objects. -/
inductive ModelError where
  | notAnObject (found : Json.Shape)
  | missingApiVersion
  | missingKind
  | missingName (kind : String)
  | duplicate (id : Identity)
  | unexpectedValue (path : String) (found : Json.Shape)

/-- The text of a model error. -/
def ModelError.message : ModelError → String
  | .notAnObject found => "expected an object, found " ++ found.name
  | .missingApiVersion => "object missing apiVersion"
  | .missingKind => "object missing kind"
  | .missingName kind => kind ++ " object missing metadata.name"
  | .duplicate id => "duplicate resource " ++ id.text
  | .unexpectedValue path found =>
    "looking for kubernetes object at " ++ path ++ ", but instead found " ++ found.name

/-- Why a server's version cannot be told. -/
inductive VersionError where
  | major (text : String)
  | minor (text : String)
  | release (text : String)

/-- The text of a version error. -/
def VersionError.message : VersionError → String
  | .major text => "unable to parse major version " ++ Text.quoted text
  | .minor text => "unable to parse minor version " ++ Text.quoted text
  | .release text => "unable to parse server version " ++ Text.quoted text

/-- A failed call that has no class of its own. -/
inductive Fault where
  | status (code : Nat) (reason message : String)
  | model (e : ModelError)
  | version (e : VersionError)
  | layer (l : Layer)
  /-- Counting on was stopped at the largest number there is. -/
  | overflow

/-- The text of a fault. -/
def Fault.message : Fault → String
  | .status code reason message => reason ++ " (" ++ toString code ++ "): " ++ message
  | .model e => e.message
  | .version e => e.message
  | .layer l => l.text
  | .overflow => "attempt to add with overflow"

/-- The classified outcome of a failed call to a server. -/
inductive ApiError where
  | notFound (message : String)
  | conflict (message : String)
  | forbidden (message : String)
  | alreadyExists (message : String)
  | other (fault : Fault)

namespace ApiError

/-- Classifies a status code; the reason tells the two meanings of 409 apart. -/
def ofStatus (code : Nat) (reason message : String) : ApiError :=
  match code with
  | 404 => .notFound message
  | 403 => .forbidden message
  | 409 => if reason = "AlreadyExists" then .alreadyExists message else .conflict message
  | _ => .other (.status code reason message)

/-- Whether the object is not there. -/
def isNotFound : ApiError → Bool
  | .notFound _ => true
  | _ => false

/-- Whether the object is not in the expected state. -/
def isConflict : ApiError → Bool
  | .conflict _ => true
  | _ => false

/-- Whether the call is not permitted. -/
def isForbidden : ApiError → Bool
  | .forbidden _ => true
  | _ => false

/-- Whether the object is there already. -/
def isAlreadyExists : ApiError → Bool
  | .alreadyExists _ => true
  | _ => false

/-- The text of a failed call. -/
def message : ApiError → String
  | .notFound m => "not found: " ++ m
  | .conflict m => "conflict: " ++ m
  | .forbidden m => "forbidden: " ++ m
  | .alreadyExists m => "already exists: " ++ m
  | .other fault => fault.message

end ApiError

/-- What went wrong. -/
inductive Cause where
  | model (e : ModelError)
  | api (e : ApiError)
  | version (e : VersionError)
  | layer (l : Layer)
  | unknownStrategy (text : String)
  | unknownListMode (text : String)
  | noSuchFile (path : String)
  | unknownExtension (path : String)
  | inputTooLong (limit : Nat)
  | unknownKind (gvk : Gvk)
  | invalidTag (problem : String)
  | namespacesNotServed
  | creationOff (object : String)
  | differences
  | invalidObjects
  | schemaNotFetched (text : String)
  | schemaNotCompiled (key problem : String)
  /-- A character that may not stand in an address. -/
  | badAddress

/-- The text of a cause. -/
def Cause.message : Cause → String
  | .model e => e.message
  | .api e => e.message
  | .version e => e.message
  | .layer l => l.text
  | .unknownStrategy text =>
    "unknown diff strategy " ++ Text.quoted text ++ " (expected all, subset or last-applied)"
  | .unknownListMode text =>
    "unknown list mode " ++ Text.quoted text ++ " (expected cluster-scope or per-namespace)"
  | .noSuchFile path => path ++ ": no such file or directory"
  | .unknownExtension path => "unknown file extension: " ++ path
  | .inputTooLong limit => "input exceeds " ++ toString limit ++ " bytes (KCFG_MAX_INPUT_BYTES)"
  | .unknownKind gvk => "unable to find resource kind " ++ gvk.text ++ " on the server"
  | .invalidTag problem => "invalid --gc-tag: " ++ problem
  | .namespacesNotServed => "server does not serve v1 Namespace"
  | .creationOff object => object ++ " not found and --create=false"
  | .differences => "diff found differences"
  | .invalidObjects => "validation failed"
  | .schemaNotFetched text => text
  | .schemaNotCompiled key problem => "compiling schema " ++ key ++ ": " ++ problem
  | .badAddress => "invalid uri character"

/-- A cause and the contexts it passed through, the outermost first. -/
structure Failure where
  contexts : List String
  cause : Cause

namespace Failure

/-- A failure in no context. -/
def ofCause (cause : Cause) : Failure := ⟨[], cause⟩

/-- A cause is a failure that nothing has been said about yet. -/
instance : Coe Cause Failure := ⟨ofCause⟩

/-- The failure seen from one context further out. -/
def inContext (context : String) (f : Failure) : Failure := { f with contexts := context :: f.contexts }

/-- The contexts and the cause, joined by colons. -/
def message (f : Failure) : String := ": ".intercalate (f.contexts ++ [f.cause.message])

/-- The outermost text alone. -/
def headline (f : Failure) : String := f.contexts.headD f.cause.message

end Failure

end Reconcile
