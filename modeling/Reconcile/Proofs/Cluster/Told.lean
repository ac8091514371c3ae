import Reconcile.Proofs.Cluster.Answers
import Reconcile.Proofs.Cluster.Session
import Reconcile.Proofs.Program.Failing

/-!
# Sessions over a cluster in memory

What a cluster in memory says about itself changes nothing but the count of what it was asked, whether
a session has to ask or remembers. A program that asks for no change leaves the cluster as it is.
-/

namespace Reconcile

/-- A session over a cluster in memory. -/
abbrev MemoryCluster.session : Server (Memo MemoryCluster) := MemoryCluster.server.remembering

open MemoryCluster (session)

namespace Program

variable {memo : Memo MemoryCluster}

/-- The session is new, or knows the kinds that the cluster serves. -/
def KnowsKinds (memo : Memo MemoryCluster) : Prop :=
  memo.kinds = none ∨ memo.kinds = some memo.server.kinds

/-- Asking for the kinds is answered with what the cluster serves. -/
theorem outcome_demand_kinds_of_knows (h : KnowsKinds memo) :
    ∃ count, (demand .kinds).outcome session memo =
      (.ok memo.server.kinds,
        { memo with server := memo.server.asked count, kinds := some memo.server.kinds }) := by
  rw [outcome_demand]
  rcases memo with ⟨c, version, known⟩
  rcases h with h | h
  · obtain rfl : known = none := h
    exact ⟨c.discoveries + 1, rfl⟩
  · obtain rfl : known = some c.kinds := h
    exact ⟨c.discoveries, rfl⟩

/-- A kind that is served is found. -/
theorem outcome_resolve_of_knows (h : KnowsKinds memo) {gvk : Gvk} {kind : KindInfo}
    (hkind : KindInfo.find memo.server.kinds gvk = some kind) :
    ∃ count, (resolve gvk).outcome session memo =
      (.ok kind, { memo with server := memo.server.asked count, kinds := some memo.server.kinds }) := by
  obtain ⟨count, hdemand⟩ := outcome_demand_kinds_of_knows h
  refine ⟨count, ?_⟩
  rw [resolve, outcome_bind, kindInfo, outcome_bind, hdemand]
  dsimp only
  rw [outcome_pure, hkind]
  rfl

/-- Asking for the version changes nothing but what the session remembers. -/
theorem outcome_demand_version (memo : Memo MemoryCluster) :
    ∃ version asked count, (demand .version).outcome session memo =
      (.ok version, { memo with server := memo.server.asked count, version := asked }) := by
  rw [outcome_demand]
  rcases memo with ⟨c, known, kinds⟩
  cases known with
  | some version => exact ⟨version, some version, c.discoveries, rfl⟩
  | none => exact ⟨c.version, some c.version, c.discoveries + 1, rfl⟩

/-- A request that asks for no change leaves the cluster of a session as it is, but for the count of
what it was asked. -/
theorem server_answer_of_unchanging {r : Request} (h : r.Unchanging) (memo : Memo MemoryCluster) :
    ∃ count, (session.answer r memo).2.server = memo.server.asked count := by
  rcases MemoryCluster.server.remembering_server r memo with hsame | hnext
  · exact ⟨memo.server.discoveries, hsame⟩
  · obtain ⟨count, hcount⟩ := MemoryCluster.asked_of_answer (c := memo.server) fun hchange =>
      absurd (h.symm.trans hchange) Bool.false_ne_true
    exact ⟨count, hnext.trans hcount⟩

/-- A program that asks for no change leaves the cluster as it is. -/
theorem server_outcome_of_unchanging {α : Type} {p : Program α} (hasks : p.Asks Request.Unchanging)
    (memo : Memo MemoryCluster) :
    ∃ count, (p.outcome session memo).2.server = memo.server.asked count := by
  refine outcome_keeps_of_asks session
    (fun s => ∃ count, s.server = memo.server.asked count) (fun r s hr hs => ?_) hasks
    ⟨memo.server.discoveries, rfl⟩
  obtain ⟨count, hcount⟩ := hs
  obtain ⟨after, hafter⟩ := server_answer_of_unchanging hr s
  exact ⟨after, by rw [hafter, hcount]; rfl⟩

/-- A session passes a request for a change on. -/
theorem answer_of_isChange {r : Request} (h : r.isChange = true) (memo : Memo MemoryCluster) :
    session.answer r memo =
      ((MemoryCluster.server.answer r memo.server).1,
        { memo with server := (MemoryCluster.server.answer r memo.server).2 }) := by
  cases r with
  | create | patch | delete => rfl
  | version | kinds | get | list => contradiction

/-- When a decisive program fails, the cluster is as it was. -/
theorem Decisive.server_of_error {α : Type} {p : Program α} (hp : p.Decisive) {memo' : Memo MemoryCluster}
    {f : Failure} (h : p.outcome session memo = (.error f, memo')) :
    ∃ count, memo'.server = memo.server.asked count := by
  induction p generalizing memo with
  | done a => simp at h
  | fail g =>
    obtain rfl := (Prod.mk.inj h).2
    exact ⟨memo.server.discoveries, rfl⟩
  | emit e next ih => exact ih hp h
  | ask r next ih =>
    rw [outcome_ask] at h
    have hfirst : ∃ count, (session.answer r memo).2.server = memo.server.asked count := by
      cases hchange : r.isChange with
      | false => exact server_answer_of_unchanging hchange memo
      | true =>
        rw [answer_of_isChange hchange] at h ⊢
        refine MemoryCluster.asked_of_answer fun _ => ?_
        -- with the change made the program would have succeeded
        cases hanswer : (MemoryCluster.server.answer r memo.server).1 with
        | error e => rfl
        | ok reply =>
          rw [hanswer] at h
          exact absurd (congrArg Prod.fst h) ((hp.1 hchange reply).outcome_ne_error session _ f)
    obtain ⟨count, hcount⟩ := hfirst
    obtain ⟨after, hafter⟩ := ih _ (hp.2 _) h
    exact ⟨after, by rw [hafter, hcount]; rfl⟩

end Program

end Reconcile
