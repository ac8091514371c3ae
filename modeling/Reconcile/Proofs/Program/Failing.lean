import Reconcile.Proofs.Program.Reads

/-!
# How programs fail

Two bounds on failing are read off a program, whatever it is answered: for which causes it can fail, and
that it fails only as long as it has changed nothing. A program of the latter sort is decisive; when it
fails, the server is as it was.
-/

namespace Reconcile.Program

variable {σ α β : Type}

/-- A program fails for allowed causes only, whatever it is answered. -/
def FailsWith (allowed : Cause → Prop) : Program α → Prop
  | .done _ => True
  | .fail f => allowed f.cause
  | .emit _ next => next.FailsWith allowed
  | .ask _ next => ∀ answer, (next answer).FailsWith allowed

section FailsWith

variable {allowed : Cause → Prop}

/-- A program that has come to its end fails no more. -/
theorem failsWith_pure (a : α) : (pure a : Program α).FailsWith allowed := trivial

/-- A program in two parts fails as one of them does. -/
theorem failsWith_bind {p : Program α} {k : α → Program β} (hp : p.FailsWith allowed)
    (hk : ∀ a, (k a).FailsWith allowed) : (p >>= k).FailsWith allowed := by
  show (p.bind k).FailsWith allowed
  induction p with
  | done a => exact hk a
  | fail f => exact hp
  | emit e next ih => exact ih hp
  | ask r next ih => exact fun answer => ih answer (hp answer)

/-- The context of a failure does not change its cause. -/
theorem failsWith_inContext {context : String} {p : Program α} (hp : p.FailsWith allowed) :
    (p.inContext context).FailsWith allowed := by
  induction p with
  | done a => trivial
  | fail f => exact hp
  | emit e next ih => exact ih hp
  | ask r next ih => exact fun answer => ih answer (hp answer)

/-- Telling something does not fail. -/
theorem failsWith_tell (n : Notice) : (tell n).FailsWith allowed := trivial

/-- Nor does telling several things. -/
theorem failsWith_tellAll (notices : List Notice) : (tellAll notices).FailsWith allowed := by
  induction notices with
  | nil => trivial
  | cons n rest ih => exact ih

/-- Nor does asking. -/
theorem failsWith_request (r : Request) : (request r).FailsWith allowed := fun _ => trivial

/-- Whoever asks and fails when refused fails with what is answered. -/
theorem failsWith_demand (h : ∀ e, allowed (.api e)) (r : Request) : (demand r).FailsWith allowed := by
  rintro (e | reply)
  · exact h e
  · trivial

/-- A run that fails does so for an allowed cause. -/
theorem FailsWith.cause_of_error (server : Server σ) {p : Program α} (hp : p.FailsWith allowed)
    {s s' : σ} {f : Failure} (h : p.outcome server s = (.error f, s')) : allowed f.cause := by
  induction p generalizing s with
  | done a => simp at h
  | fail g =>
    obtain ⟨rfl, -⟩ := Prod.mk.inj h |>.imp_left Except.error.inj
    exact hp
  | emit e next ih => exact ih hp h
  | ask r next ih => exact ih _ (hp _) h

end FailsWith

/-- A program comes to a value, and asks for nothing on its way. -/
def Succeeds : Program α → Prop
  | .done _ => True
  | .fail _ => False
  | .emit _ next => next.Succeeds
  | .ask _ _ => False

/-- A program fails only as long as it has changed nothing: with a change that is made it succeeds. -/
def Decisive : Program α → Prop
  | .done _ => True
  | .fail _ => True
  | .emit _ next => next.Decisive
  | .ask r next =>
    (r.isChange = true → ∀ reply, (next (.ok reply)).Succeeds) ∧ ∀ answer, (next answer).Decisive

section Decisive

/-- A program that has come to its end asks for nothing more. -/
theorem decisive_pure (a : α) : (pure a : Program α).Decisive := trivial

/-- What comes before the decisive part only has to change nothing. -/
theorem decisive_bind {p : Program α} {k : α → Program β} (hp : p.Asks Request.Unchanging)
    (hk : ∀ a, (k a).Decisive) : (p >>= k).Decisive := by
  show (p.bind k).Decisive
  induction p with
  | done a => exact hk a
  | fail f => trivial
  | emit e next ih => exact ih hp
  | ask r next ih =>
    refine ⟨fun hchange => ?_, fun answer => ih answer (hp.2 answer)⟩
    exact absurd (hp.1.symm.trans hchange) Bool.false_ne_true

/-- Whatever succeeds does so in any context. -/
theorem Succeeds.inContext {context : String} {p : Program α} (hp : p.Succeeds) :
    (p.inContext context).Succeeds := by
  induction p with
  | done a => trivial
  | fail f => exact hp
  | emit e next ih => exact ih hp
  | ask r next => exact hp

/-- Whatever is decisive is so in any context. -/
theorem decisive_inContext {context : String} {p : Program α} (hp : p.Decisive) :
    (p.inContext context).Decisive := by
  induction p with
  | done a => trivial
  | fail f => trivial
  | emit e next ih => exact ih hp
  | ask r next ih =>
    exact ⟨fun hchange reply => (hp.1 hchange reply).inContext, fun answer => ih answer (hp.2 answer)⟩

/-- A run that succeeds without asking does not fail. -/
theorem Succeeds.outcome_ne_error (server : Server σ) {p : Program α} (hp : p.Succeeds) (s : σ) (f : Failure) :
    (p.outcome server s).1 ≠ .error f := by
  induction p with
  | done a => simp
  | fail g => exact hp.elim
  | emit e next ih => exact ih hp
  | ask r next => exact hp.elim

end Decisive

end Reconcile.Program
