import Reconcile.Cluster.Kind
import Reconcile.Cluster.Version
import Reconcile.Notice
import Reconcile.Resource

/-!
# Programs over a server

A command is a program: it asks a server for something, goes on with the answer, reports, prints
and perhaps fails. `Program.run` lets a server answer. A server is any function from requests and a
state to answers and a new state, so the same command runs against a server that keeps its objects
in memory, one that is disturbed between two requests, or any other.
-/

namespace Reconcile

/-- What a server can be asked for. The namespace is absent for a cluster-wide kind, and in a
listing it is absent to span all namespaces. -/
inductive Request where
  | version
  | kinds
  | get (kind : KindInfo) (scope : Option String) (name : String)
  | create (kind : KindInfo) (scope : Option String) (object : Resource)
  /-- Changes an object by a merge patch. -/
  | patch (kind : KindInfo) (scope : Option String) (name : String) (patch : Json)
  | delete (kind : KindInfo) (scope : Option String) (name : String) (options : DeleteOptions)
  | list (kind : KindInfo) (scope : Option String) (selector : Option String)

/-- What a request is answered with, unless it fails. -/
abbrev Request.Reply : Request → Type
  | .version => ServerVersion
  | .kinds => List KindInfo
  | .get .. | .create .. | .patch .. => Resource
  | .delete .. => Unit
  | .list .. => List Resource

/-- The answer to a request. -/
abbrev Request.Answer (r : Request) : Type := Except ApiError r.Reply

/-- What a program gives out while it runs. -/
inductive Event where
  | notice (n : Notice)
  | output (text : String)

/-- A program over a server. -/
inductive Program (α : Type) where
  | done (a : α)
  | fail (f : Failure)
  | emit (e : Event) (next : Program α)
  | ask (r : Request) (next : r.Answer → Program α)

namespace Program

/-- One program after another. -/
def bind {α β : Type} : Program α → (α → Program β) → Program β
  | .done a, k => k a
  | .fail f, _ => .fail f
  | .emit e next, k => .emit e (next.bind k)
  | .ask r next, k => .ask r fun answer => (next answer).bind k

/-- Programs run one after the other, each with what the one before came to. -/
instance : Monad Program where
  pure := .done
  bind := bind

/-- A program whose failure is seen from one context further out. -/
def inContext {α : Type} (context : String) : Program α → Program α
  | .done a => .done a
  | .fail f => .fail (f.inContext context)
  | .emit e next => .emit e (next.inContext context)
  | .ask r next => .ask r fun answer => (next answer).inContext context

/-- A result or a failure that needs no server. -/
def ofExcept {α : Type} : Except Failure α → Program α
  | .ok a => .done a
  | .error f => .fail f

/-- Asks for something; the program goes on whatever the answer is. -/
def request (r : Request) : Program r.Answer := .ask r .done

/-- Asks for something and fails if the server does. -/
def demand (r : Request) : Program r.Reply :=
  .ask r fun
    | .ok reply => .done reply
    | .error e => .fail (Cause.api e)

/-- Reports something. -/
def tell (n : Notice) : Program Unit := .emit (.notice n) (.done ())

/-- Reports several things. -/
def tellAll (notices : List Notice) : Program Unit := notices.foldr (fun n next => .emit (.notice n) next) (.done ())

/-- Prints a text. -/
def print (text : String) : Program Unit := .emit (.output text) (.done ())

end Program

/-- A server with a state: it answers requests one by one. -/
structure Server (σ : Type) where
  answer : (r : Request) → σ → r.Answer × σ

/-- What a program came to: its result, what it gave out, and the state of the server after it. -/
structure Run (σ α : Type) where
  result : Except Failure α
  events : List Event
  state : σ

namespace Program

/-- Runs a program on a server. -/
def run {σ α : Type} (server : Server σ) : Program α → σ → Run σ α
  | .done a, s => ⟨.ok a, [], s⟩
  | .fail f, s => ⟨.error f, [], s⟩
  | .emit e next, s =>
    let after := next.run server s
    { after with events := e :: after.events }
  | .ask r next, s => (next (server.answer r s).1).run server (server.answer r s).2

end Program

namespace Run

variable {σ α : Type}

/-- The notices of a run. -/
def notices (r : Run σ α) : List Notice :=
  r.events.filterMap fun
    | .notice n => some n
    | .output _ => none

/-- The text that a run printed. -/
def output (r : Run σ α) : String :=
  String.join (r.events.filterMap fun
    | .notice _ => none
    | .output text => some text)

end Run

end Reconcile
