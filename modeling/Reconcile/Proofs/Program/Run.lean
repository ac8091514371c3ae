import Reconcile.Cluster.Session

/-!
# Runs of programs

A run is read off the program: `Program.outcome` is its result with the state it leaves, and
`Program.requests` what it asks for. Both follow the program's own shape, one equation for each way
to build a program, so a command is run by rewriting. `Program.Asks` bounds what a program can ask
for whatever it is answered.
-/

namespace Reconcile.Program

variable {σ α β : Type}

/-- The result of a run and the state of the server after it. -/
def outcome (server : Server σ) (p : Program α) (s : σ) : Except Failure α × σ :=
  ((p.run server s).result, (p.run server s).state)

/-- The requests of a run, in order. -/
def requests (server : Server σ) : Program α → σ → List Request
  | .done _, _ => []
  | .fail _, _ => []
  | .emit _ next, s => next.requests server s
  | .ask r next, s => r :: (next (server.answer r s).1).requests server (server.answer r s).2

/-- Nothing is added by ending after the end. -/
theorem bind_pure_right (p : Program α) : p.bind pure = p := by
  induction p with
  | done a => rfl
  | fail f => rfl
  | emit e next ih => exact congrArg (emit e) ih
  | ask r next ih => exact congrArg (ask r) (funext ih)

/-- It does not matter how three parts are put together. -/
theorem bind_bind {γ : Type} (p : Program α) (f : α → Program β) (g : β → Program γ) :
    (p.bind f).bind g = p.bind fun a => (f a).bind g := by
  induction p with
  | done a => rfl
  | fail f => rfl
  | emit e next ih => exact congrArg (emit e) ih
  | ask r next ih => exact congrArg (ask r) (funext ih)

/-- Programs one after another may be grouped in any way. -/
instance : LawfulMonad Program := .mk' Program bind_pure_right (fun _ _ => rfl) bind_bind

section Outcome

variable (server : Server σ) (s : σ)

/-- What has come to its end stays so, and the server with it. -/
@[simp] theorem outcome_pure (a : α) : (pure a : Program α).outcome server s = (.ok a, s) := rfl

/-- So it does however the end is written. -/
@[simp] theorem outcome_done (a : α) : (Program.done a).outcome server s = (.ok a, s) := rfl

/-- What has failed stays so, and the server with it. -/
@[simp] theorem outcome_fail (f : Failure) :
    (Program.fail f : Program α).outcome server s = (.error f, s) := rfl

/-- Saying something changes nothing in what a program comes to. -/
@[simp] theorem outcome_emit (e : Event) (next : Program α) :
    (Program.emit e next).outcome server s = next.outcome server s := rfl

/-- A program goes on with what it is answered, on the server as it is then. -/
@[simp] theorem outcome_ask (r : Request) (next : r.Answer → Program α) :
    (Program.ask r next).outcome server s =
      (next (server.answer r s).1).outcome server (server.answer r s).2 := rfl

/-- Telling something always succeeds. -/
@[simp] theorem outcome_tell (n : Notice) : (tell n).outcome server s = (.ok (), s) := rfl

/-- So does telling several things. -/
@[simp] theorem outcome_tellAll (notices : List Notice) :
    (tellAll notices).outcome server s = (.ok (), s) := by
  induction notices with
  | nil => rfl
  | cons n rest ih => exact ih

/-- Asking comes to the answer. -/
@[simp] theorem outcome_request (r : Request) :
    (request r).outcome server s = (.ok (server.answer r s).1, (server.answer r s).2) := rfl

/-- Where a refusal is a failure, asking comes to the reply or fails with the refusal. -/
theorem outcome_demand (r : Request) :
    (demand r).outcome server s =
      match server.answer r s with
      | (.ok reply, s') => (.ok reply, s')
      | (.error e, s') => (.error (Cause.api e), s') := by
  rw [demand, outcome_ask]
  rcases server.answer r s with ⟨answer | answer, s'⟩ <;> rfl

/-- A result comes to itself. -/
@[simp] theorem outcome_ofExcept (x : Except Failure α) : (ofExcept x).outcome server s = (x, s) := by
  cases x <;> rfl

/-- What comes after starts where the first program ended, unless that failed. -/
theorem outcome_bind (p : Program α) (k : α → Program β) :
    (p >>= k).outcome server s =
      match p.outcome server s with
      | (.ok a, s') => (k a).outcome server s'
      | (.error f, s') => (.error f, s') := by
  show (p.bind k).outcome server s = _
  induction p generalizing s with
  | done a => rfl
  | fail f => rfl
  | emit e next ih => exact ih s
  | ask r next ih => exact ih _ _

/-- Where the first part succeeds the second one goes on from there. -/
theorem outcome_bind_of_ok {p : Program α} {k : α → Program β} {a : α} {s' : σ}
    (h : p.outcome server s = (.ok a, s')) : (p >>= k).outcome server s = (k a).outcome server s' := by
  rw [outcome_bind, h]

/-- A context changes nothing but the failure. -/
theorem outcome_inContext (context : String) (p : Program α) :
    (p.inContext context).outcome server s =
      ((p.outcome server s).1.mapError (·.inContext context), (p.outcome server s).2) := by
  induction p generalizing s with
  | done a => rfl
  | fail f => rfl
  | emit e next ih => exact ih s
  | ask r next ih => exact ih _ _

/-- Seen from its context a success is the same. -/
theorem outcome_inContext_eq_ok {context : String} {p : Program α} {a : α} {s s' : σ} :
    (p.inContext context).outcome server s = (.ok a, s') ↔ p.outcome server s = (.ok a, s') := by
  rw [outcome_inContext]
  rcases p.outcome server s with ⟨f | b, after⟩
  · exact iff_of_false nofun nofun
  · exact Iff.rfl

end Outcome

section Requests

variable (server : Server σ) (s : σ)

/-- A program that has come to its end asks for nothing. -/
@[simp] theorem requests_pure (a : α) : (pure a : Program α).requests server s = [] := rfl

/-- Nor does telling something. -/
@[simp] theorem requests_tell (n : Notice) : (tell n).requests server s = [] := rfl

/-- Nor does telling several things. -/
@[simp] theorem requests_tellAll (notices : List Notice) :
    (tellAll notices).requests server s = [] := by
  induction notices with
  | nil => rfl
  | cons n rest ih => exact ih

/-- Whoever asks asks for that. -/
@[simp] theorem requests_request (r : Request) : (request r).requests server s = [r] := rfl

/-- So does whoever fails when refused. -/
@[simp] theorem requests_demand (r : Request) : (demand r).requests server s = [r] := by
  rw [demand, requests]
  cases (server.answer r s).1 <;> rfl

/-- A result asks for nothing. -/
@[simp] theorem requests_ofExcept (x : Except Failure α) : (ofExcept x).requests server s = [] := by
  cases x <;> rfl

/-- A program in two parts asks for what the first one does, and then for what the second one does if
there is one. -/
theorem requests_bind (p : Program α) (k : α → Program β) :
    (p >>= k).requests server s =
      p.requests server s ++
        match p.outcome server s with
        | (.ok a, s') => (k a).requests server s'
        | (.error _, _) => [] := by
  show (p.bind k).requests server s = _
  induction p generalizing s with
  | done a => rfl
  | fail f => rfl
  | emit e next ih => exact ih s
  | ask r next ih => exact congrArg (r :: ·) (ih _ _)

/-- The context of a failure asks for nothing. -/
theorem requests_inContext (context : String) (p : Program α) :
    (p.inContext context).requests server s = p.requests server s := by
  induction p generalizing s with
  | done a => rfl
  | fail f => rfl
  | emit e next ih => exact ih s
  | ask r next ih => exact congrArg (r :: ·) (ih _ _)

end Requests

/-- What a server keeps through every answer, it keeps through every run. -/
theorem outcome_keeps (server : Server σ) {kept : σ → Prop}
    (step : ∀ r s, kept s → kept (server.answer r s).2) (p : Program α) {s : σ} (h : kept s) :
    kept (p.outcome server s).2 := by
  induction p generalizing s with
  | done a => exact h
  | fail f => exact h
  | emit e next ih => exact ih h
  | ask r next ih => exact ih _ (step r s h)

/-- A program makes allowed requests only, whatever it is answered. -/
def Asks (allowed : Request → Prop) : Program α → Prop
  | .done _ => True
  | .fail _ => True
  | .emit _ next => next.Asks allowed
  | .ask r next => allowed r ∧ ∀ answer, (next answer).Asks allowed

section Asks

variable {allowed : Request → Prop}

/-- A program that has come to its end asks only for what is allowed. -/
theorem asks_pure (a : α) : (pure a : Program α).Asks allowed := trivial

/-- Two parts that ask only for what is allowed make a program that does. -/
theorem asks_bind {p : Program α} {k : α → Program β} (hp : p.Asks allowed)
    (hk : ∀ a, (k a).Asks allowed) : (p >>= k).Asks allowed := by
  show (p.bind k).Asks allowed
  induction p with
  | done a => exact hk a
  | fail f => trivial
  | emit e next ih => exact ih hp
  | ask r next ih => exact ⟨hp.1, fun answer => ih answer (hp.2 answer)⟩

/-- So does a program in a context. -/
theorem asks_inContext {context : String} {p : Program α} (hp : p.Asks allowed) :
    (p.inContext context).Asks allowed := by
  induction p with
  | done a => trivial
  | fail f => trivial
  | emit e next ih => exact ih hp
  | ask r next ih => exact ⟨hp.1, fun answer => ih answer (hp.2 answer)⟩

/-- So does telling something. -/
theorem asks_tell (n : Notice) : (tell n).Asks allowed := trivial

/-- So does telling several things. -/
theorem asks_tellAll (notices : List Notice) : (tellAll notices).Asks allowed := by
  induction notices with
  | nil => trivial
  | cons n rest ih => exact ih

/-- So does a result. -/
theorem asks_ofExcept (x : Except Failure α) : (ofExcept x).Asks allowed := by
  cases x <;> trivial

/-- So does whoever asks for what is allowed. -/
theorem asks_request {r : Request} (h : allowed r) : (request r).Asks allowed :=
  ⟨h, fun _ => trivial⟩

/-- So does whoever asks for it and fails when refused. -/
theorem asks_demand {r : Request} (h : allowed r) : (demand r).Asks allowed :=
  ⟨h, fun answer => by cases answer <;> trivial⟩

/-- Every request of a run is an allowed one. -/
theorem allowed_of_asks (server : Server σ) {p : Program α} (hp : p.Asks allowed) (s : σ) :
    ∀ r ∈ p.requests server s, allowed r := by
  induction p generalizing s with
  | done a => simp [requests]
  | fail f => simp [requests]
  | emit e next ih => exact ih hp s
  | ask r next ih =>
    intro r' hr'
    rcases List.mem_cons.mp hr' with rfl | hr'
    · exact hp.1
    · exact ih _ (hp.2 _) _ r' hr'

/-- What a server keeps through its answers to allowed requests is kept by every run that makes no
other ones. -/
theorem outcome_keeps_of_asks (server : Server σ) (kept : σ → Prop)
    (step : ∀ r s, allowed r → kept s → kept (server.answer r s).2) {p : Program α}
    (hasks : p.Asks allowed) {s : σ} (h : kept s) : kept (p.outcome server s).2 := by
  induction p generalizing s with
  | done a => exact h
  | fail f => exact h
  | emit e next ih => exact ih hasks h
  | ask r next ih => exact ih _ (hasks.2 _) (step r s hasks.1 h)

end Asks

end Reconcile.Program
