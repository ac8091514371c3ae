import Reconcile.Proofs.Program.Run

/-!
# The moments of a run

A run asks one request after the other, and each meets the server in some state: `Program.moments`
lists both. Where every answer leads from a state to a later one, the moments of a run stand in that
order, so what holds from one moment on can be said about those that come after it.
-/

namespace Reconcile.Program

variable {σ α β : Type}

/-- The requests of a run, each with the state of the server that it meets. -/
def moments (server : Server σ) : Program α → σ → List (Request × σ)
  | .done _, _ => []
  | .fail _, _ => []
  | .emit _ next, s => next.moments server s
  | .ask r next, s => (r, s) :: (next (server.answer r s).1).moments server (server.answer r s).2

/-- Whether a request is answered with success in the state that it meets. -/
def succeeds (server : Server σ) (m : Request × σ) : Bool := (server.answer m.1 m.2).1.isOk

section Moments

variable (server : Server σ) (s : σ)

/-- Without the states these are the requests. -/
theorem map_fst_moments (p : Program α) : (p.moments server s).map (·.1) = p.requests server s := by
  induction p generalizing s with
  | done a => rfl
  | fail f => rfl
  | emit e next ih => exact ih s
  | ask r next ih => exact congrArg (r :: ·) (ih _ _)

/-- A program that has come to its end has no moments. -/
@[simp] theorem moments_pure (a : α) : (pure a : Program α).moments server s = [] := rfl

/-- A program that has failed has none. -/
@[simp] theorem moments_fail (f : Failure) : (Program.fail f : Program α).moments server s = [] := rfl

/-- Telling something takes no moment. -/
@[simp] theorem moments_tell (n : Notice) : (tell n).moments server s = [] := rfl

/-- Nor does telling several things. -/
@[simp] theorem moments_tellAll (notices : List Notice) : (tellAll notices).moments server s = [] := by
  induction notices with
  | nil => rfl
  | cons n rest ih => exact ih

/-- Asking takes one. -/
@[simp] theorem moments_request (r : Request) : (request r).moments server s = [(r, s)] := rfl

/-- So does asking where a refusal is a failure. -/
@[simp] theorem moments_demand (r : Request) : (demand r).moments server s = [(r, s)] := by
  rw [demand, moments]
  cases (server.answer r s).1 <;> rfl

/-- A program in two parts has the moments of the first one, and then those of the second one if there
is one. -/
theorem moments_bind (p : Program α) (k : α → Program β) :
    (p >>= k).moments server s =
      p.moments server s ++
        match p.outcome server s with
        | (.ok a, s') => (k a).moments server s'
        | (.error _, _) => [] := by
  show (p.bind k).moments server s = _
  induction p generalizing s with
  | done a => rfl
  | fail f => rfl
  | emit e next ih => exact ih s
  | ask r next ih => exact congrArg ((r, s) :: ·) (ih _ _)

/-- So it has those of both where the first part succeeds. -/
theorem moments_bind_of_ok {p : Program α} {k : α → Program β} {a : α} {s' : σ}
    (h : p.outcome server s = (.ok a, s')) :
    (p >>= k).moments server s = p.moments server s ++ (k a).moments server s' := by
  rw [moments_bind, h]

/-- The context of a failure takes no moment. -/
@[simp] theorem moments_inContext (context : String) (p : Program α) :
    (p.inContext context).moments server s = p.moments server s := by
  induction p generalizing s with
  | done a => rfl
  | fail f => rfl
  | emit e next ih => exact ih s
  | ask r next ih => exact congrArg ((r, s) :: ·) (ih _ _)

end Moments

/-- Something holds at every moment of a run. -/
def Throughout (server : Server σ) (holds : Request × σ → Prop) (p : Program α) (s : σ) : Prop :=
  ∀ m ∈ p.moments server s, holds m

section Throughout

variable {server : Server σ} {holds : Request × σ → Prop} {s : σ}

/-- Whatever it is holds throughout a program that has come to its end. -/
theorem throughout_pure (a : α) : (pure a : Program α).Throughout server holds s := by simp [Throughout]

/-- It holds throughout one that has failed. -/
theorem throughout_fail (f : Failure) : (Program.fail f : Program α).Throughout server holds s := by
  simp [Throughout]

/-- What holds when something is asked holds throughout the asking. -/
theorem throughout_request {r : Request} (h : holds (r, s)) : (request r).Throughout server holds s := by
  simpa [Throughout] using h

/-- So it does where a refusal is a failure. -/
theorem throughout_demand {r : Request} (h : holds (r, s)) : (demand r).Throughout server holds s := by
  simpa [Throughout] using h

/-- What comes after has to hold on from where the first program ended. -/
theorem Throughout.bind {p : Program α} {k : α → Program β} (hp : p.Throughout server holds s)
    (hk : ∀ a s', p.outcome server s = (.ok a, s') → (k a).Throughout server holds s') :
    (p >>= k).Throughout server holds s := by
  intro m hm
  rw [moments_bind, List.mem_append] at hm
  rcases hm with hm | hm
  · exact hp m hm
  · rcases hrun : p.outcome server s with ⟨f | a, s'⟩
    · simp [hrun] at hm
    · rw [hrun] at hm
      exact hk a s' hrun m hm

/-- What holds throughout a program holds in any context. -/
theorem Throughout.inContext {p : Program α} (hp : p.Throughout server holds s) (context : String) :
    (p.inContext context).Throughout server holds s := by
  rw [Throughout, moments_inContext]
  exact hp

/-- What holds of allowed requests holds throughout a run that makes no other ones. -/
theorem throughout_of_asks (server : Server σ) {allowed : Request → Prop} {p : Program α}
    (hasks : p.Asks allowed) (s : σ) : p.Throughout server (fun m => allowed m.1) s := by
  intro m hm
  refine allowed_of_asks server hasks s m.1 ?_
  rw [← map_fst_moments]
  exact List.mem_map_of_mem hm

end Throughout

/-- What leads on at every moment of a run leads from its start through each of its moments, one after the
other, to its end. -/
theorem moments_lead (server : Server σ) (leads : σ → σ → Prop) (refl : ∀ s, leads s s)
    (trans : ∀ {a b c}, leads a b → leads b c → leads a c) {p : Program α} {s : σ}
    (step : ∀ m ∈ p.moments server s, leads m.2 (server.answer m.1 m.2).2) :
    leads s (p.outcome server s).2 ∧
      (∀ m ∈ p.moments server s, leads s m.2 ∧ leads m.2 (p.outcome server s).2) ∧
      (p.moments server s).Pairwise fun a b => leads (server.answer a.1 a.2).2 b.2 := by
  induction p generalizing s with
  | done a => exact ⟨refl s, by simp [moments], .nil⟩
  | fail f => exact ⟨refl s, by simp [moments], .nil⟩
  | emit e next ih => exact ih step
  | ask r next ih =>
    rw [moments, List.forall_mem_cons] at step
    obtain ⟨hend, hmoments, hordered⟩ := ih _ step.2
    refine ⟨trans step.1 hend, fun m hm => ?_, List.pairwise_cons.mpr ⟨fun m hm => (hmoments m hm).1, hordered⟩⟩
    rcases List.mem_cons.mp hm with rfl | hm
    · exact ⟨refl s, trans step.1 hend⟩
    · exact ⟨trans step.1 (hmoments m hm).1, (hmoments m hm).2⟩

/-- What no answer raises by more than one is, at each moment of a run, no further up than there were moments
before it. -/
theorem moments_raise (server : Server σ) (count : σ → Nat)
    (step : ∀ r s, count (server.answer r s).2 ≤ count s + 1) (p : Program α) (s : σ) :
    count (p.outcome server s).2 ≤ count s + (p.moments server s).length ∧
      ∀ i m, (p.moments server s)[i]? = some m → count m.2 ≤ count s + i := by
  induction p generalizing s with
  | done a => exact ⟨Nat.le_refl _, by simp [moments]⟩
  | fail f => exact ⟨Nat.le_refl _, by simp [moments]⟩
  | emit e next ih => exact ih s
  | ask r next ih =>
    obtain ⟨hend, hmoments⟩ := ih (server.answer r s).1 (server.answer r s).2
    have hstep := step r s
    refine ⟨?_, fun i m hm => ?_⟩
    · rw [moments, List.length_cons]
      exact Nat.le_trans hend (by omega)
    · cases i with
      | zero =>
        rw [moments, List.getElem?_cons_zero, Option.some.injEq] at hm
        exact hm ▸ Nat.le_refl _
      | succ i =>
        rw [moments, List.getElem?_cons_succ] at hm
        exact Nat.le_trans (hmoments i m hm) (by omega)

/-- What leads on from answer to answer leads from the start of a run through each of its moments to
its end. -/
theorem moments_along (server : Server σ) (leads : σ → σ → Prop) (refl : ∀ s, leads s s)
    (trans : ∀ {a b c}, leads a b → leads b c → leads a c) {allowed : Request → Prop}
    (step : ∀ r s, allowed r → leads s (server.answer r s).2) {p : Program α} (hasks : p.Asks allowed)
    (s : σ) :
    leads s (p.outcome server s).2 ∧
      ∀ m ∈ p.moments server s, leads s m.2 ∧ leads m.2 (p.outcome server s).2 := by
  obtain ⟨hend, hmoments, -⟩ := moments_lead server leads refl trans fun m hm =>
    step m.1 m.2 (throughout_of_asks server hasks s m hm)
  exact ⟨hend, hmoments⟩

end Reconcile.Program
