import Reconcile.Proofs.Program.Run

/-!
# What a run gives out

The events of a run follow one another like the programs do. A program without events of its own is
silent: what it comes to is all there is to say of its run.
-/

namespace Reconcile.Program

variable {σ α β : Type}

/-- What comes after gives out its events after those of the first program. -/
theorem run_bind_of_ok (server : Server σ) {p : Program α} {k : α → Program β} {s s' s'' : σ} {a : α}
    {x : Except Failure β} {first second : List Event} (hp : p.run server s = ⟨.ok a, first, s'⟩)
    (hk : (k a).run server s' = ⟨x, second, s''⟩) :
    (p >>= k).run server s = ⟨x, first ++ second, s''⟩ := by
  show (p.bind k).run server s = _
  induction p generalizing s first with
  | done c =>
    obtain ⟨rfl, rfl, rfl⟩ : c = a ∧ [] = first ∧ s = s' := by simpa [run] using hp
    exact hk
  | fail f => simp [run] at hp
  | emit e next ih =>
    rcases hnext : next.run server s with ⟨result, rest, after⟩
    simp only [run, hnext, Run.mk.injEq] at hp
    obtain ⟨rfl, rfl, rfl⟩ := hp
    simp only [Program.bind, run, ih hnext, List.cons_append]
  | ask r next ih => exact ih _ hp

/-- Telling notices comes to these notices, in their order. -/
theorem run_tellAll (server : Server σ) (notices : List Notice) (s : σ) :
    (tellAll notices).run server s = ⟨.ok (), notices.map .notice, s⟩ := by
  induction notices with
  | nil => rfl
  | cons n rest ih =>
    rw [tellAll, List.foldr_cons, ← tellAll, run, ih]
    rfl

/-- A program gives nothing out, whatever it is answered. -/
def Silent : Program α → Prop
  | .done _ => True
  | .fail _ => True
  | .emit _ _ => False
  | .ask _ next => ∀ answer, (next answer).Silent

section Silent

/-- A program that has come to its end says no more. -/
theorem silent_pure (a : α) : (pure a : Program α).Silent := trivial

/-- Whoever asks says nothing. -/
theorem silent_request (r : Request) : (request r).Silent := fun _ => trivial

/-- Nor does whoever asks and fails when refused. -/
theorem silent_demand (r : Request) : (demand r).Silent := by
  rw [demand, Silent]
  rintro (e | reply) <;> trivial

/-- Of two silent parts a silent program is made. -/
theorem silent_bind {p : Program α} {k : α → Program β} (hp : p.Silent) (hk : ∀ a, (k a).Silent) :
    (p >>= k).Silent := by
  show (p.bind k).Silent
  induction p with
  | done a => exact hk a
  | fail f => trivial
  | emit e next ih => exact hp.elim
  | ask r next ih => exact fun answer => ih answer (hp answer)

/-- Failing in a context is no louder. -/
theorem silent_inContext {p : Program α} (context : String) (hp : p.Silent) :
    (p.inContext context).Silent := by
  induction p with
  | done a => trivial
  | fail f => trivial
  | emit e next ih => exact hp.elim
  | ask r next ih => exact fun answer => ih answer (hp answer)

/-- Looking up a kind is silent. -/
theorem silent_kindInfo (gvk : Gvk) : (kindInfo gvk).Silent :=
  silent_bind (silent_demand _) fun _ => silent_pure _

/-- So is resolving one. -/
theorem silent_resolve (gvk : Gvk) : (resolve gvk).Silent := by
  refine silent_bind (silent_kindInfo gvk) fun kind => ?_
  cases kind <;> trivial

/-- So is describing an object. -/
theorem silent_describe (r : Resource) : (describe r).Silent := by
  refine silent_bind (silent_request _) fun answer => ?_
  cases answer <;> trivial

/-- What a silent program comes to is all of its run. -/
theorem Silent.run_of_outcome {server : Server σ} {p : Program α} {s s' : σ} {x : Except Failure α}
    (hp : p.Silent) (h : p.outcome server s = (x, s')) : p.run server s = ⟨x, [], s'⟩ := by
  induction p generalizing s with
  | done a =>
    obtain ⟨rfl, rfl⟩ := Prod.mk.inj h
    rfl
  | fail f =>
    obtain ⟨rfl, rfl⟩ := Prod.mk.inj h
    rfl
  | emit e next ih => exact hp.elim
  | ask r next ih => exact ih _ (hp _) h

end Silent

end Reconcile.Program
