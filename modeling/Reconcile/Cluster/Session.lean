import Reconcile.Cluster.Program
import Reconcile.Text.LetterCase

/-!
# Sessions

A session asks its server for the version and the kinds at most once each: what it was told it
remembers, a failure it does not. The default namespace holds the objects of namespaced kinds that
name none.
-/

namespace Reconcile

/-- A server and what it told about itself. -/
structure Memo (σ : Type) where
  server : σ
  version : Option ServerVersion := none
  kinds : Option (List KindInfo) := none

/-- Answers from memory what was answered before. -/
def Server.remembering {σ : Type} (server : Server σ) : Server (Memo σ) where
  answer
    | .version, memo =>
      match memo.version with
      | some v => (.ok v, memo)
      | none =>
        match server.answer .version memo.server with
        | (.ok v, s) => (.ok v, { memo with server := s, version := some v })
        | (.error e, s) => (.error e, { memo with server := s })
    | .kinds, memo =>
      match memo.kinds with
      | some kinds => (.ok kinds, memo)
      | none =>
        match server.answer .kinds memo.server with
        | (.ok kinds, s) => (.ok kinds, { memo with server := s, kinds := some kinds })
        | (.error e, s) => (.error e, { memo with server := s })
    | r, memo =>
      let (answer, s) := server.answer r memo.server
      (answer, { memo with server := s })

/-- The namespace that holds an object of a kind: its own, else the default one; none for
cluster-wide kinds. -/
def targetScope (defaultScope : String) (kind : KindInfo) (r : Resource) : Option String :=
  match kind.scope with
  | .cluster => none
  | .namespaced => some (r.scope?.getD defaultScope)

/-- An object in the namespace that holds it, stated where it named none. -/
def Resource.placedIn (target : Option String) (r : Resource) : Resource :=
  match target, r.scope? with
  | some ns, none => r.setScope ns
  | _, _ => r

/-- A text that describes an object, by what is served under its kind if that is known. -/
def Resource.description (kind : Option KindInfo) (r : Resource) : String :=
  (match kind with
    | some kind => kind.plural
    | none => Text.lower r.kind) ++ " " ++ r.qualifiedName

namespace Program

/-- What is served under a kind. -/
def kindInfo (gvk : Gvk) : Program (Option KindInfo) := do
  return KindInfo.find (← demand .kinds) gvk

/-- What is served under a kind; an unknown kind is an error. -/
def resolve (gvk : Gvk) : Program KindInfo := do
  match ← kindInfo gvk with
  | some kind => return kind
  | none => .fail (Cause.unknownKind gvk)

/-- Describes an object; the kind's own name stands in when the server cannot tell. -/
def describe (r : Resource) : Program String := do
  match ← request .kinds with
  | .ok kinds => return r.description (KindInfo.find kinds r.gvk)
  | .error _ => return r.description none

/-- What is served under the kind of an object, or nothing when the kind is unknown and that is
to be ignored. -/
def kindOf (ignoreUnknown : Bool) (r : Resource) : Program (Option KindInfo) := do
  match ← kindInfo r.gvk with
  | some kind => return some kind
  | none =>
    if ignoreUnknown then
      tell (.unknownKind r.gvk r.qualifiedName)
      return none
    else .fail ((Failure.ofCause (.unknownKind r.gvk)).inContext r.identity.text)

end Program

end Reconcile
