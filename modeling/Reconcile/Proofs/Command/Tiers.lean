import Reconcile.Proofs.Command.Failed
import Reconcile.Proofs.Command.Interleaved
import Reconcile.Proofs.Command.Purge
import Reconcile.Proofs.Command.Races
import Reconcile.Proofs.Order.Tiers

/-!
# Tiers of a run

A cluster writes down the changes it makes. What a run creates and patches follows the order of creation,
and what it deletes the order of deletion, so the tiers of these orders are found again in what was
written down: `Program.runs_in_tiers`. The order goes by what the session knows about scopes, where the
last entry for a kind counts, and a request by what is served under the kind, where it is the first.
-/

namespace Reconcile

open MemoryCluster (session)

namespace Request

/-- The kind of the object that a request creates or patches. -/
def brought? : Request → Option KindInfo
  | .create kind .. | .patch kind .. => some kind
  | _ => none

/-- The kind of the object that a request deletes. -/
def removed? : Request → Option KindInfo
  | .delete kind .. => some kind
  | _ => none

/-- What a cluster writes down when it makes a change. -/
def callText? : Request → Option String
  | .create kind scope object =>
    some (MemoryCluster.callText "create" kind (MemoryCluster.key kind scope object.name))
  | .patch kind scope name _ => some (MemoryCluster.callText "patch" kind (MemoryCluster.key kind scope name))
  | .delete kind scope name options =>
    some (MemoryCluster.deletionText kind (MemoryCluster.key kind scope name) options)
  | _ => none

variable {r : Request} {kind : KindInfo}

/-- What is brought is touched. -/
theorem touched?_of_brought? (h : r.brought? = some kind) :
    ∃ id, r.touched? = some id ∧ id.gvk = kind.gvk := by
  cases r with
  | create | patch =>
    obtain rfl := Option.some.inj h
    exact ⟨_, rfl, rfl⟩
  | version | kinds | get | delete | list => contradiction

end Request

/-- What a cluster writes down is what it did. -/
theorem MemoryCluster.calls_answer (r : Request) (c : MemoryCluster) :
    (server.answer r c).2.calls = c.calls ++
      if r.isChange && Program.succeeds server (r, c) then r.callText?.toList else [] := by
  cases r with
  | version | kinds | get | list => exact (List.append_nil _).symm
  | create kind scope object =>
    show (c.create kind scope object).2.calls = c.calls ++
      if (c.create kind scope object).1.isOk then _ else []
    obtain ⟨e, h⟩ | ⟨-, -, uid, made, -, h⟩ := create_cases (c := c) kind scope object <;> rw [h]
    · exact (List.append_nil _).symm
    · rfl
  | patch kind scope name patch =>
    show (c.patch kind scope name patch).2.calls = c.calls ++
      if (c.patch kind scope name patch).1.isOk then _ else []
    obtain ⟨e, h⟩ | ⟨-, current, patched, uid, made, -, -, -, h⟩ :=
      patch_cases (c := c) kind scope name patch <;> rw [h]
    · exact (List.append_nil _).symm
    · rfl
  | delete kind scope name options =>
    show (c.delete kind scope name options).2.calls = c.calls ++
      if (c.delete kind scope name options).1.isOk then _ else []
    obtain ⟨e, -, h⟩ | ⟨current, -, -, h⟩ := delete_cases (c := c) kind scope name options <;> rw [h]
    · exact (List.append_nil _).symm
    · rfl

namespace Program

section Logged

variable {σ α β : Type} (server : Server σ) (p : Program α) (s : σ)

/-- The kinds of the objects that a run creates and patches, in order. -/
def brought : List KindInfo := (p.changes server s).filterMap (·.1.brought?)

/-- The kinds of the objects that a run deletes, in order. -/
def removed : List KindInfo := (p.changes server s).filterMap (·.1.removed?)

/-- What a run changes it asks for. -/
theorem filterMap_changes_sublist {β : Type} (f : Request → Option β) :
    ((p.changes server s).filterMap (f ·.1)).Sublist ((p.requests server s).filterMap f) := by
  rw [← map_fst_moments, List.filterMap_map]
  exact List.filter_sublist.filterMap _

end Logged

variable {α : Type} {memo : Memo MemoryCluster}

/-- A session writes down what it changes. -/
theorem calls_outcome (p : Program α) (memo : Memo MemoryCluster) :
    (p.outcome session memo).2.server.calls =
      memo.server.calls ++ (p.changes session memo).filterMap (·.1.callText?) := by
  induction p generalizing memo with
  | done a => exact (List.append_nil _).symm
  | fail f => exact (List.append_nil _).symm
  | emit e next ih => exact ih memo
  | ask r next ih =>
    have hnow : (session.answer r memo).2.server.calls = memo.server.calls ++
        if r.isChange && succeeds session (r, memo) then r.callText?.toList else [] := by
      cases hchange : r.isChange with
      | false =>
        obtain ⟨count, hsame⟩ := server_answer_of_unchanging hchange memo
        rw [hsame]
        exact (List.append_nil _).symm
      | true =>
        have hcalls := MemoryCluster.calls_answer r memo.server
        rw [hchange] at hcalls
        rw [succeeds, answer_of_isChange hchange]
        exact hcalls
    rw [outcome_ask, ih, hnow, changes, changes, moments, List.filter_cons, List.append_assoc]
    split
    · rw [List.filterMap_cons]
      cases r.callText? <;> rfl
    · rfl

/-- What a session knows about kinds stays right, and its cluster serves the same kinds. -/
theorem knowsKinds_answer (h : KnowsKinds memo) (r : Request) :
    KnowsKinds (session.answer r memo).2 ∧ (session.answer r memo).2.server.kinds = memo.server.kinds := by
  have hserver : (session.answer r memo).2.server.kinds = memo.server.kinds := by
    rcases MemoryCluster.server.remembering_server r memo with hsame | hnext
    · rw [hsame]
    · rw [hnext, (memo.server.answered r).kinds_eq.1]
  refine ⟨?_, hserver⟩
  rcases h with hnone | hsome
  · cases r with
    | version =>
      rcases memo with ⟨c, version, kinds⟩
      cases version <;> exact .inl hnone
    | kinds =>
      rcases memo with ⟨c, version, kinds⟩
      obtain rfl : kinds = none := hnone
      exact .inr rfl
    | get | create | patch | delete | list => exact .inl hnone
  · exact .inr ((MemoryCluster.server.remembering_keeps_kinds r memo hsome).trans
      (congrArg some hserver.symm))

/-- A session goes on knowing the kinds, and no program changes them. -/
theorem knowsKinds_outcome (h : KnowsKinds memo) (p : Program α) :
    KnowsKinds (p.outcome session memo).2 ∧
      (p.outcome session memo).2.server.kinds = memo.server.kinds := by
  let kept (s : Memo MemoryCluster) : Prop := KnowsKinds s ∧ s.server.kinds = memo.server.kinds
  have hstep (r : Request) (s : Memo MemoryCluster) (hs : kept s) : kept (session.answer r s).2 :=
    ⟨(knowsKinds_answer hs.1 r).1, (knowsKinds_answer hs.1 r).2.trans hs.2⟩
  exact outcome_keeps session hstep p ⟨h, rfl⟩

/-- What is touched while objects are handled stands in the order of their kinds. -/
theorem Handled.pairwise {kinds : List KindInfo} {defaultScope : String} {objects : List Resource}
    {touched : List Identity} {handled : List (Resource × List Identity)} {le : Gvk → Gvk → Prop}
    (h : Handled kinds defaultScope objects touched handled) (refl : ∀ gvk, le gvk gvk)
    (hobjects : objects.Pairwise fun a b => le a.gvk b.gvk) :
    touched.Pairwise fun a b => le a.gvk b.gvk := by
  have hgvk : ∀ x ∈ handled, ∀ id ∈ x.2, id.gvk = x.1.gvk := by
    intro x hx id hid
    have hown := h.own x hx id hid
    cases hkind : KindInfo.find kinds x.1.gvk with
    | none => simp [Resource.target?, hkind] at hown
    | some kind =>
      rw [Resource.target?_eq_key hkind, Option.map_some, Option.some.injEq] at hown
      rw [← hown]
      exact KindInfo.gvk_of_find hkind
  rw [h.touched_eq, List.pairwise_flatMap]
  refine ⟨fun x hx => ?_, ?_⟩
  · refine List.pairwise_of_forall_mem_list fun a ha b hb => ?_
    rw [hgvk x hx a ha, hgvk x hx b hb]
    exact refl _
  · refine (List.pairwise_map.mp (hobjects.sublist h.inputs.sublist)).imp_of_mem ?_
    intro x y hx hy hle a ha b hb
    rw [hgvk x hx a ha, hgvk y hy b hb]
    exact hle

/-- What an update creates and patches follows the order of creation. -/
theorem pairwise_brought_update [Compression] (hknows : KnowsKinds memo) (defaultScope : String)
    (options : UpdateOptions) (table : RankTable) (objects : List Resource) :
    (brought session (update defaultScope options table objects) memo).Pairwise fun a b =>
      table.rank a.gvk (KindInfo.scopes memo.server.kinds a.gvk) ≤
        table.rank b.gvk (KindInfo.scopes memo.server.kinds b.gvk) := by
  have hkinds : (session.answer .kinds memo).1 = .ok memo.server.kinds := by
    rcases hknows with hnone | hsome
    · rcases memo with ⟨c, version, known⟩
      obtain rfl : known = none := hnone
      rfl
    · exact congrArg Prod.fst (MemoryCluster.server.remembering_kinds hsome)
  obtain ⟨handled, hhandled⟩ :=
    handled_update MemoryCluster.server defaultScope options table objects memo hkinds
  let rank (gvk : Gvk) : Int := table.rank gvk (KindInfo.scopes memo.server.kinds gvk)
  have htouched := @Handled.pairwise _ _ _ _ _ (fun a b => rank a ≤ rank b) hhandled
    (fun _ => Int.le_refl _) (pairwise_rank_creationOrder table (KindInfo.scopes memo.server.kinds) objects)
  rw [touched, List.pairwise_filterMap] at htouched
  refine List.Pairwise.sublist (filterMap_changes_sublist session _ memo Request.brought?) ?_
  rw [List.pairwise_filterMap]
  refine htouched.imp fun {a b} hle kind hkind other hother => ?_
  obtain ⟨id, hid, hgvk⟩ := Request.touched?_of_brought? hkind
  obtain ⟨id', hid', hgvk'⟩ := Request.touched?_of_brought? hother
  rw [← hgvk, ← hgvk']
  exact hle id hid id' hid'

/-- Kinds follow objects when they are the kinds of some of these, in the same order. -/
def Follows (kinds : List KindInfo) (objects : List Resource) : Prop :=
  ∃ done : List Resource, done.Sublist objects ∧ kinds.map (·.gvk) = done.map Resource.gvk

/-- Kinds that follow objects are in an order whenever the objects are. -/
theorem Follows.pairwise {kinds : List KindInfo} {objects : List Resource} {le : Gvk → Gvk → Prop}
    (h : Follows kinds objects) (hobjects : objects.Pairwise fun a b => le a.gvk b.gvk) :
    kinds.Pairwise fun a b => le a.gvk b.gvk := by
  obtain ⟨done, hsub, hgvk⟩ := h
  have hdone : (done.map Resource.gvk).Pairwise le := List.pairwise_map.mpr (hobjects.sublist hsub)
  rw [← hgvk] at hdone
  exact List.pairwise_map.mp hdone

/-- The deletions of inputs follow these. -/
theorem follows_deletions (kinds : List KindInfo) (defaultScope : String) (how : DeleteOptions)
    (objects : List Resource) :
    Follows ((objects.filterMap (·.deletion? kinds defaultScope how)).filterMap Request.removed?) objects := by
  induction objects with
  | nil => exact ⟨[], List.Sublist.refl _, rfl⟩
  | cons r rest ih =>
    obtain ⟨done, hdone, hgvk⟩ := ih
    cases hkind : KindInfo.find kinds r.gvk with
    | none =>
      rw [List.filterMap_cons_none (by rw [Resource.deletion?, hkind, Option.map_none])]
      exact ⟨done, hdone.cons r, hgvk⟩
    | some kind =>
      rw [List.filterMap_cons_some (by rw [Resource.deletion?, hkind, Option.map_some])]
      refine ⟨r :: done, hdone.cons_cons r, ?_⟩
      rw [List.filterMap_cons_some (show Request.removed? _ = some kind from rfl), List.map_cons,
        List.map_cons, hgvk, KindInfo.gvk_of_find hkind]

section Removals

variable {σ : Type} (server : Server σ) {kinds : List KindInfo}

/-- The kinds of the objects whose deletion a run asks for, in order. -/
def doomedKinds (server : Server σ) (p : Program α) (s : σ) : List KindInfo :=
  (p.deletionRequests server s).filterMap Request.removed?

/-- What is deleted was doomed, in the same order. -/
theorem removed_sublist (p : Program α) (s : σ) :
    (p.removed server s).Sublist (p.doomedKinds server s) := by
  have hdeletions : p.doomedKinds server s = (p.requests server s).filterMap Request.removed? := by
    rw [doomedKinds, deletionRequests, List.filterMap_filter]
    refine List.filterMap_congr fun r _ => ?_
    cases r <;> rfl
  rw [hdeletions]
  exact filterMap_changes_sublist server p s Request.removed?

/-- One piece of garbage is deleted under its own kind, or not at all. -/
theorem follows_collectOne {memo : Memo σ} (hkinds : memo.kinds = some kinds) (how : DeleteOptions)
    (dryRun : Bool) (r : Resource) (report : CollectReport) :
    Follows ((collectOne how dryRun r report).doomedKinds server.remembering memo) [r] := by
  have hkindless : Request.isDeletion .kinds = false := rfl
  have hdescribe := outcome_describe server hkinds r
  cases dryRun with
  | true =>
    refine ⟨[], List.nil_sublist _, ?_⟩
    have hnone : (collectOne how true r report).Asks fun request => request.isDeletion = false :=
      asks_bind (asks_describe hkindless r) fun _ => asks_bind (asks_tell _) fun _ => asks_pure _
    rw [doomedKinds, deletionRequests_eq_nil _ hnone]
    rfl
  | false =>
    -- before the deletion itself nothing is asked that deletes
    rw [collectOne_eq, doomedKinds, deletionRequests_bind_of_ok _ hdescribe,
      deletionRequests_eq_nil _ (asks_describe hkindless r), List.nil_append,
      deletionRequests_bind_of_ok _ (outcome_tell _ _ _), deletionRequests_eq_nil _ (asks_tell _),
      List.nil_append, deletionRequests_bind, deletionRequests_eq_nil _ (asks_resolve hkindless _),
      List.nil_append]
    cases hkind : KindInfo.find kinds r.gvk with
    | none =>
      have hunknown : (resolve r.gvk).outcome server.remembering memo =
          (.error (Cause.unknownKind r.gvk), memo) := by
        rw [resolve, outcome_bind, outcome_kindInfo server hkinds, hkind]
        rfl
      rw [hunknown]
      exact ⟨[], List.nil_sublist _, rfl⟩
    | some kind =>
      have hsettle (description : String) (answer : Except ApiError Unit) :
          (settle description r report answer).Asks fun request => request.isDeletion = false := by
        cases answer with
        | ok done => exact asks_pure _
        | error e =>
          rw [settle]
          split <;> trivial
      rw [outcome_resolve server hkinds hkind]
      dsimp only
      rw [deletionRequests_bind_of_ok _ (outcome_request _ _ _), deletionRequests_eq_nil _ (hsettle _ _),
        List.append_nil, deletionRequests, requests_request]
      exact ⟨[r], List.Sublist.refl _, congrArg (fun gvk => [gvk]) (KindInfo.gvk_of_find hkind)⟩

/-- A program in two parts dooms what the first one does, and then what the second one does if there is
one. -/
theorem doomedKinds_bind {α β : Type} (p : Program α) (k : α → Program β) (s : σ) :
    (p >>= k).doomedKinds server s = p.doomedKinds server s ++
      match p.outcome server s with
      | (.ok a, s') => (k a).doomedKinds server s'
      | (.error _, _) => [] := by
  rw [doomedKinds, deletionRequests_bind, List.filterMap_append, doomedKinds]
  rcases p.outcome server s with ⟨f | a, s'⟩ <;> rfl

/-- Garbage is deleted in the order in which it is given. -/
theorem follows_collectAll {memo : Memo σ} (hkinds : memo.kinds = some kinds) (how : DeleteOptions)
    (dryRun : Bool) (doomed : List Resource) (report : CollectReport) :
    Follows ((collectAll how dryRun doomed report).doomedKinds server.remembering memo) doomed := by
  induction doomed generalizing memo report with
  | nil => exact ⟨[], List.Sublist.refl _, rfl⟩
  | cons r rest ih =>
    obtain ⟨own, hown, hfirst⟩ := follows_collectOne server hkinds how dryRun r report
    have hkept := outcome_keeps server.remembering
      (fun request s => server.remembering_keeps_kinds request s) (collectOne how dryRun r report) hkinds
    rw [collectAll, doomedKinds_bind]
    rcases houtcome : (collectOne how dryRun r report).outcome server.remembering memo with
      ⟨f | next, memo'⟩
    · refine ⟨own, hown.trans (List.singleton_sublist.mpr List.mem_cons_self), ?_⟩
      rw [List.append_nil, hfirst]
    · rw [houtcome] at hkept
      obtain ⟨later, hlater, hrest⟩ := ih hkept next
      refine ⟨own ++ later, hown.append hlater, ?_⟩
      rw [List.map_append, List.map_append, hfirst]
      exact congrArg _ hrest

end Removals

/-- A search says which kinds its cluster serves, and the session knows them. -/
theorem told_of_search (hknows : KnowsKinds memo) {options : CollectOptions} {seen : Seen} {found : Found}
    {memo' : Memo MemoryCluster} (h : (search options seen).outcome session memo = (.ok found, memo')) :
    found.kinds = memo.server.kinds ∧ memo'.kinds = some memo.server.kinds := by
  obtain ⟨version, known, count, hversion⟩ := outcome_demand_version memo
  obtain ⟨count', hdemand⟩ := @outcome_demand_kinds_of_knows
    { memo with server := memo.server.asked count, version := known } hknows
  rw [search, outcome_bind_of_ok _ _ hversion, outcome_bind_of_ok _ _ hdemand] at h
  constructor
  · rw [outcome_bind] at h
    split at h
    · rw [outcome_bind] at h
      split at h
      · exact congrArg Found.kinds (Except.ok.inj (congrArg Prod.fst h)).symm
      · cases congrArg Prod.fst h
    · cases congrArg Prod.fst h
  · rw [← show _ = memo' from congrArg Prod.snd h]
    exact outcome_keeps session (fun request s => MemoryCluster.server.remembering_keeps_kinds request s) _ rfl

section Order

variable (hknows : KnowsKinds memo) (table : RankTable)

include hknows

/-- What a collection asks to be deleted follows the order of deletion. -/
theorem pairwise_doomedKinds_collect (options : CollectOptions) (seen : Seen) :
    ((collect options seen table).doomedKinds session memo).Pairwise fun a b =>
      table.rank b.gvk (KindInfo.scopes memo.server.kinds b.gvk) ≤
        table.rank a.gvk (KindInfo.scopes memo.server.kinds a.gvk) := by
  have hundeleting : (search options seen).doomedKinds session memo = [] := by
    rw [doomedKinds, deletionRequests_eq_nil _ (asks_search_undeleting options seen)]
    rfl
  rw [collect_eq_phases, doomedKinds_bind, hundeleting, List.nil_append]
  rcases hsearch : (search options seen).outcome session memo with ⟨f | found, memo'⟩
  · exact .nil
  · obtain ⟨hfound, htold⟩ := told_of_search hknows hsearch
    have hfollows := follows_collectAll MemoryCluster.server htold (.forVersion found.version) options.dryRun
      (deletionOrder table (KindInfo.scopes found.kinds) found.gathering.doomed)
      { considered := found.gathering.considered, deleted := [], wouldDelete := [], raced := 0
        forbiddenLists := found.gathering.forbiddenLists }
    rw [hfound] at hfollows
    let rank (gvk : Gvk) : Int := table.rank gvk (KindInfo.scopes memo.server.kinds gvk)
    have hsorted := @Follows.pairwise _ _ (fun a b => rank b ≤ rank a) hfollows
      (pairwise_rank_deletionOrder table (KindInfo.scopes memo.server.kinds) found.gathering.doomed)
    dsimp only
    rw [sweep, hfound]
    exact hsorted

/-- So does what an update asks to be deleted. -/
theorem pairwise_doomedKinds_update [Compression] (defaultScope : String) (options : UpdateOptions)
    (objects : List Resource) :
    ((update defaultScope options table objects).doomedKinds session memo).Pairwise fun a b =>
      table.rank b.gvk (KindInfo.scopes memo.server.kinds b.gvk) ≤
        table.rank a.gvk (KindInfo.scopes memo.server.kinds a.gvk) := by
  have hundeleting : (applyPhase defaultScope options table objects).doomedKinds session memo = [] := by
    rw [doomedKinds, deletionRequests_eq_nil _ (asks_applyPhase_undeleting table objects)]
    rfl
  rw [update_eq_phases, doomedKinds_bind, hundeleting, List.nil_append]
  have hkept := knowsKinds_outcome hknows (applyPhase defaultScope options table objects)
  rcases happly : (applyPhase defaultScope options table objects).outcome session memo with ⟨f | report, memo'⟩
  · exact .nil
  · rw [happly] at hkept
    dsimp only
    rw [collectPhase]
    split
    · rw [doomedKinds_bind]
      have hcollect := fun options seen => pairwise_doomedKinds_collect hkept.1 table options seen
      rw [hkept.2] at hcollect
      split
      · exact (List.append_nil _).symm ▸ hcollect _ _
      · exact (List.append_nil _).symm ▸ hcollect _ _
    · exact .nil

/-- So does what a deletion asks to be deleted. -/
theorem pairwise_doomedKinds_delete (defaultScope : String) (gracePeriod : Option UInt32)
    (ignoreUnknown : Bool) (objects : List Resource) :
    ((delete defaultScope gracePeriod ignoreUnknown table objects).doomedKinds session memo).Pairwise fun a b =>
      table.rank b.gvk (KindInfo.scopes memo.server.kinds b.gvk) ≤
        table.rank a.gvk (KindInfo.scopes memo.server.kinds a.gvk) := by
  cases haccepted : checkDuplicates objects with
  | error e =>
    rw [delete, haccepted]
    exact .nil
  | ok _ =>
    obtain ⟨how, -, done, left, hsplit, -, hasked, -⟩ :=
      @purge_delete defaultScope memo ignoreUnknown objects gracePeriod table hknows haccepted
    obtain ⟨served, hserved, hgvk⟩ := follows_deletions memo.server.kinds defaultScope how done
    let rank (gvk : Gvk) : Int := table.rank gvk (KindInfo.scopes memo.server.kinds gvk)
    have hfollows : Follows ((delete defaultScope gracePeriod ignoreUnknown table objects).doomedKinds
        session memo) (deletionOrder table (KindInfo.scopes memo.server.kinds) objects) := by
      rw [doomedKinds, hasked, hsplit]
      exact ⟨served, hserved.trans (List.sublist_append_left done left), hgvk⟩
    exact @Follows.pairwise _ _ (fun a b => rank b ≤ rank a) hfollows
      (pairwise_rank_deletionOrder table (KindInfo.scopes memo.server.kinds) objects)

end Order

/-- What a run writes down is in tiers: no object of a kind that may need a namespace is created or patched
before a namespace is, and no namespace is deleted before such an object is. -/
structure LoggedInTiers (p : Program α) (memo : Memo MemoryCluster) : Prop where
  log : (p.outcome session memo).2.server.calls =
    memo.server.calls ++ (p.changes session memo).filterMap (·.1.callText?)
  brought : InTiers (fun kind => kind.gvk.IsOneOf RankTable.namespaces)
    (fun kind => kind.gvk.MayNeedNamespace (KindInfo.scopes memo.server.kinds)) (p.brought session memo)
  removed : InTiers (fun kind => kind.gvk.MayNeedNamespace (KindInfo.scopes memo.server.kinds))
    (fun kind => kind.gvk.IsOneOf RankTable.namespaces) (p.removed session memo)

/-- A run that brings and deletes objects in the order of their ranks is in tiers. -/
theorem LoggedInTiers.of_pairwise {p : Program α}
    (hbrought : (p.brought session memo).Pairwise fun a b =>
      RankTable.standard.rank a.gvk (KindInfo.scopes memo.server.kinds a.gvk) ≤
        RankTable.standard.rank b.gvk (KindInfo.scopes memo.server.kinds b.gvk))
    (hremoved : (p.doomedKinds session memo).Pairwise fun a b =>
      RankTable.standard.rank b.gvk (KindInfo.scopes memo.server.kinds b.gvk) ≤
        RankTable.standard.rank a.gvk (KindInfo.scopes memo.server.kinds a.gvk)) :
    LoggedInTiers p memo where
  log := calls_outcome p memo
  brought := .of_rank hbrought fun _ _ hns hneeds => hneeds.rank_lt hns
  removed := by
    refine (hremoved.sublist (removed_sublist session p memo)).imp fun {a b} hle hns hneeds => ?_
    exact absurd (hneeds.rank_lt hns) (Int.not_lt.mpr hle)

/-- A run that touches nothing brings nothing. -/
theorem brought_eq_nil {p : Program α} (h : p.Asks Request.TouchesNone) (memo : Memo MemoryCluster) :
    p.brought session memo = [] := by
  refine List.sublist_nil.mp ((filterMap_changes_sublist session p memo Request.brought?).trans ?_)
  rw [List.sublist_nil, List.filterMap_eq_nil_iff]
  intro r hr
  cases hkind : r.brought? with
  | none => rfl
  | some kind =>
    obtain ⟨id, hid, -⟩ := Request.touched?_of_brought? hkind
    rw [show r.touched? = none from allowed_of_asks session h memo r hr] at hid
    contradiction

/-- A deletion touches nothing. -/
theorem asks_delete_touchesNone (defaultScope : String) (gracePeriod : Option UInt32) (ignoreUnknown : Bool)
    (table : RankTable) (objects : List Resource) :
    (delete defaultScope gracePeriod ignoreUnknown table objects).Asks Request.TouchesNone := by
  refine asks_delete ?_ ?_ (fun _ _ _ _ => ?_) _ _ _ _ _ <;> rfl

/-- Where all entries for a kind agree, what is known about its scope is what they say. -/
theorem scopes_of_agreeing {kinds : List KindInfo} {kind : KindInfo} (hkind : kind ∈ kinds)
    (hagree : ∀ other ∈ kinds, other.gvk = kind.gvk → other.scope = kind.scope) :
    KindInfo.scopes kinds kind.gvk = some kind.scope := by
  rw [KindInfo.scopes]
  cases hlast : KindInfo.find kinds.reverse kind.gvk with
  | none =>
    have hmissing := List.find?_eq_none.mp hlast kind (List.mem_reverse.mpr hkind)
    simp at hmissing
  | some other =>
    have hmem := List.mem_reverse.mp (List.mem_of_find?_eq_some hlast)
    rw [Option.map_some, hagree other hmem (KindInfo.gvk_of_find hlast)]

/-- Dependency tiers hold in every run. With the standard table the order of creation is in tiers for all
objects and whatever is known about scopes, and so is what updates, deletions and collections write down.
The scope of a kind is the one that the session knows: the last entry for a kind says it, and wherever all
entries for a kind agree it is what they say. -/
theorem runs_in_tiers [Compression] (hknows : KnowsKinds memo) :
    (∀ (scopes : Scopes) (objects : List Resource), Tiered scopes (creationOrder .standard scopes objects)) ∧
      (∀ kind ∈ memo.server.kinds,
        (∀ other ∈ memo.server.kinds, other.gvk = kind.gvk → other.scope = kind.scope) →
          KindInfo.scopes memo.server.kinds kind.gvk = some kind.scope) ∧
      (∀ defaultScope options objects,
        LoggedInTiers (update defaultScope options .standard objects) memo) ∧
      (∀ defaultScope gracePeriod ignoreUnknown objects,
        LoggedInTiers (delete defaultScope gracePeriod ignoreUnknown .standard objects) memo) ∧
      ∀ options seen, LoggedInTiers (collect options seen .standard) memo := by
  refine ⟨tiered_creationOrder, fun kind => scopes_of_agreeing, fun defaultScope options objects => ?_,
    fun defaultScope gracePeriod ignoreUnknown objects => ?_, fun options seen => ?_⟩
  · exact .of_pairwise (pairwise_brought_update hknows defaultScope options .standard objects)
      (pairwise_doomedKinds_update hknows .standard defaultScope options objects)
  · refine .of_pairwise ?_
      (pairwise_doomedKinds_delete hknows .standard defaultScope gracePeriod ignoreUnknown objects)
    rw [brought_eq_nil (asks_delete_touchesNone _ _ _ _ _)]
    exact .nil
  · refine .of_pairwise ?_ (pairwise_doomedKinds_collect hknows .standard options seen)
    rw [brought_eq_nil (asks_collect options seen .standard)]
    exact .nil

/-- An update on a new session changes what bringing its inputs in order changes, and then what is
collected. -/
theorem changes_update [Compression] {c : MemoryCluster} {options : UpdateOptions} {table : RankTable}
    {objects ordered : List Resource} (defaultScope : String)
    (haccepted : checkUpdate objects options.gcTag = .ok ())
    (horder : creationOrder table (KindInfo.scopes c.kinds) objects = ordered) :
    (update defaultScope options table objects).changes session { server := c } =
      (applyAll defaultScope options ordered .empty >>= collectPhase options table).changes session
        { server := c.asked (c.discoveries + 1), kinds := some c.kinds } := by
  rw [update_eq_phases, applyPhase, haccepted, ← horder]
  rfl

/-- A namespace comes before an object in it, however they are given. -/
theorem runs_in_tiers_of_namespace_and_inhabitant :
    let configMap : Resource :=
      ⟨[("apiVersion", .string "v1"), ("kind", .string "ConfigMap"),
        ("metadata", .object [("name", .string "a"), ("namespace", .string "z")])],
        by decide, by decide, by decide⟩
    let ns : Resource :=
      ⟨[("apiVersion", .string "v1"), ("kind", .string "Namespace"),
        ("metadata", .object [("name", .string "z")])], by decide, by decide, by decide⟩
    let cluster := MemoryCluster.empty MemoryCluster.standardKinds ⟨1, 28⟩
    let program := update "default" ⟨true, none, false, .clusterScope, none, false, false⟩ .standard
      [configMap, ns]
    LoggedInTiers program { server := cluster } ∧
      (program.outcome session { server := cluster }).2.server.calls =
        ["create namespaces z", "create configmaps z.a"] := by
  intro configMap ns cluster program
  obtain ⟨-, -, hupdate, -, -⟩ := @runs_in_tiers { server := cluster } _ (.inl rfl)
  have haccepted : checkUpdate [configMap, ns] none = .ok () := by
    rw [checkUpdate, (checkDuplicates_iff _).mpr (by decide)]
    rfl
  have horder : creationOrder .standard (KindInfo.scopes cluster.kinds) [configMap, ns] = [ns, configMap] :=
    sortByKey_pair (by decide) (by decide)
  refine ⟨hupdate _ _ _, ?_⟩
  rw [outcome_update "default" haccepted horder]
  decide +kernel

/-- Of a kind that is served in namespaces first and cluster-wide last, the first entry decides where its
objects are brought and the last one in which tier: so an object of this kind comes before a namespace. -/
theorem runs_not_in_tiers_of_kind_served_twice :
    let configMap : Resource :=
      ⟨[("apiVersion", .string "v1"), ("kind", .string "ConfigMap"),
        ("metadata", .object [("name", .string "a")])], by decide, by decide, by decide⟩
    let ns : Resource :=
      ⟨[("apiVersion", .string "v1"), ("kind", .string "Namespace"),
        ("metadata", .object [("name", .string "z")])], by decide, by decide, by decide⟩
    let again : KindInfo := ⟨⟨"", "v1", "ConfigMap"⟩, "configmaps", .cluster, KindInfo.everyVerb⟩
    let cluster := MemoryCluster.empty (MemoryCluster.standardKinds ++ [again]) ⟨1, 28⟩
    let program := update "default" ⟨true, none, false, .clusterScope, none, false, false⟩ .standard
      [ns, configMap]
    ¬InTiers (fun kind => kind.gvk.IsOneOf RankTable.namespaces)
        (fun kind => kind.isNamespaced = true ∧
          ¬kind.gvk.IsOneOf (RankTable.definitions ++ RankTable.namespaces))
        (program.brought session { server := cluster }) ∧
      (program.outcome session { server := cluster }).2.server.calls =
        ["create configmaps default.a", "create namespaces z"] := by
  intro configMap ns again cluster program
  have haccepted : checkUpdate [ns, configMap] none = .ok () := by
    rw [checkUpdate, (checkDuplicates_iff _).mpr (by decide)]
    rfl
  have horder : creationOrder .standard (KindInfo.scopes cluster.kinds) [ns, configMap] = [configMap, ns] :=
    sortByKey_pair (by decide) (by decide)
  have hbrought : program.brought session { server := cluster } =
      [⟨⟨"", "v1", "ConfigMap"⟩, "configmaps", .namespaced, KindInfo.everyVerb⟩,
        ⟨⟨"", "v1", "Namespace"⟩, "namespaces", .cluster, KindInfo.everyVerb⟩] := by
    rw [brought, changes_update "default" haccepted horder]
    decide +kernel
  refine ⟨?_, ?_⟩
  · rw [hbrought, InTiers, List.pairwise_pair]
    decide
  · rw [outcome_update "default" haccepted horder]
    decide +kernel

end Program

end Reconcile
