import Reconcile.Proofs.Program.Run

/-!
# Runs that only read

A run only reads when it comes to a value and asks for no change on its way. Such runs follow one
another like programs do, and a program that can ask for no change at all only reads whenever it
succeeds.
-/

namespace Reconcile

/-- Whether a request asks for a change. -/
def Request.isChange : Request → Bool
  | .create .. | .patch .. | .delete .. => true
  | _ => false

/-- Whether a request is a deletion. -/
def Request.isDeletion : Request → Bool
  | .delete .. => true
  | _ => false

/-- A request asks for no change. -/
def Request.Unchanging (r : Request) : Prop := r.isChange = false

/-- Asking for the kinds changes nothing. -/
theorem Request.unchanging_kinds : Request.Unchanging .kinds := rfl

namespace Program

variable {σ α β : Type}

/-- A run that comes to a value, and to a state, and asks for no change. -/
structure Reads (server : Server σ) (p : Program α) (s : σ) (a : α) (s' : σ) : Prop where
  outcome : p.outcome server s = (.ok a, s')
  unchanging : ∀ r ∈ p.requests server s, r.Unchanging

variable {server : Server σ} {s s' s'' : σ} {a : α}

/-- A program that has come to its end only reads. -/
theorem reads_pure (a : α) : Reads server (pure a : Program α) s a s := ⟨rfl, by simp⟩

/-- A program that can ask for no change only reads when it succeeds. -/
theorem reads_of_asks {p : Program α} (h : p.outcome server s = (.ok a, s'))
    (hasks : p.Asks Request.Unchanging) : Reads server p s a s' :=
  ⟨h, allowed_of_asks server hasks s⟩

/-- Two programs that only read make one that does. -/
theorem Reads.bind {p : Program α} {k : α → Program β} {b : β} (hp : Reads server p s a s')
    (hk : Reads server (k a) s' b s'') : Reads server (p >>= k) s b s'' where
  outcome := by rw [outcome_bind, hp.outcome, ← hk.outcome]
  unchanging := by
    intro r hr
    rw [requests_bind, hp.outcome, List.mem_append] at hr
    exact hr.elim (hp.unchanging r) (hk.unchanging r)

/-- Reading in a context is reading. -/
theorem Reads.inContext {p : Program α} {context : String} (hp : Reads server p s a s') :
    Reads server (p.inContext context) s a s' where
  outcome := (outcome_inContext_eq_ok server).mpr hp.outcome
  unchanging := by
    rw [requests_inContext]
    exact hp.unchanging

end Program

end Reconcile
