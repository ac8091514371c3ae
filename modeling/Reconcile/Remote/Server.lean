import Reconcile.Cluster.Program
import Reconcile.Remote.Kinds
import Reconcile.Remote.Object

/-!
# Servers over HTTP

`Host.server` answers requests by calls to a host, so that every command runs against a host. The
objects of a kind have an address under their group, version and namespace; objects are sent and
received as JSON, changes as merge patches.
-/

namespace Reconcile

/-- Where the objects of a kind are. -/
def KindInfo.path (kind : KindInfo) (scope : Option String) : String :=
  let root := if kind.gvk.group = "" then "/api/" else "/apis/"
  let within :=
    match kind.scope, scope with
    | .namespaced, some ns => "namespaces/" ++ ns ++ "/"
    | _, _ => ""
  root ++ kind.gvk.apiVersion ++ "/" ++ within ++ kind.plural

namespace Remote

open Http Exchange

variable {σ : Type}

/-- Where an object is; it has a name. -/
def objectPath (kind : KindInfo) (scope : Option String) (name : String) : Exchange σ String :=
  need (if name = "" then none else some (kind.path scope ++ "/" ++ name))

/-- Reads a received object. -/
def received (kind : KindInfo) (v : Json) : Exchange σ Resource := do
  ofExcept (stamped kind (← need (objectFields? v)))

/-- Reads a version from its texts, of which the missing ones are empty. -/
def versionOf (v : Json) : Exchange σ ServerVersion := do
  let members ← need v.object?
  let read (key : String) : Exchange σ String := need (members.read? key Json.string?)
  ["buildDate", "compiler", "gitCommit", "gitTreeState", "goVersion", "platform"].forM fun key =>
    discard (read key)
  ofExcept ((ServerVersion.parse (← read "major") (← read "minor") (← read "gitVersion")).mapError
    fun e => .other (.version e))

/-- Answers a request by calls to a host. -/
def answer (host : Host σ) : (r : Request) → Exchange σ r.Reply
  | .version => do versionOf (← fetch host "/version")
  | .kinds => kinds host
  | .get kind scope name => do received kind (← fetch host (← objectPath kind scope name))
  | .create kind scope object => do
    let body ← ofExcept (sent object)
    received kind (← send host .post (kind.path scope ++ "?") (some (.json, body)))
  | .patch kind scope name patch => do
    let path ← objectPath kind scope name
    received kind (← send host .patch (path ++ "?") (some (.mergePatch, patch)))
  | .delete kind scope name options => do
    let path ← objectPath kind scope name
    let v ← send host .delete (path ++ "?") (some (.json, deletionBody options))
    need (if isDeletionAnswer v then some () else none)
  | .list kind scope selector => do
    let query := match selector with
      | some text => "&labelSelector=" ++ Text.formEncoded text
      | none => ""
    let items ← need (listItems? (← fetch host (kind.path scope ++ "?" ++ query)))
    items.mapM fun members => ofExcept (stamped kind members)

end Remote

/-- A server whose requests are answered by calls to a host. -/
def Http.Host.server {σ : Type} (host : Http.Host σ) : Server σ where
  answer r state := (Remote.answer host r).run state

namespace Remote

/-- Where the schemas of an API version are published. -/
def schemaPath (apiVersion : String) : String :=
  (if apiVersion.contains '/' then "/openapi/v3/apis/" else "/openapi/v3/api/") ++ apiVersion

/-- The document of schemas that a host publishes for an API version, if it publishes one. -/
def schemaDocument {σ : Type} (host : Http.Host σ) (apiVersion : String) :
    ExceptT Failure (StateM σ) (Option Json) := do
  let path := schemaPath apiVersion
  let failed := (Failure.ofCause (.layer .kube)).inContext ("fetching " ++ path)
  match Http.Address.ofText? path with
  | none => throw ((Failure.ofCause .badAddress).inContext "building schema request")
  | some address =>
    let response ← (host.respond ⟨.get, address, none⟩ : StateM σ Http.Response)
    match Refusal.ofResponse? response with
    | some refusal => if refusal.code = 404 then return none else throw failed
    | none =>
      match Json.parse? response.text with
      | some document => return some document
      | none => throw failed

end Remote

end Reconcile
