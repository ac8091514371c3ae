import Reconcile.Command.Delete
import Reconcile.Proofs.Cluster.Told
import Reconcile.Proofs.Command.Target
import Reconcile.Proofs.Order.Basic
import Reconcile.Proofs.Program.Reads

/-!
# What a deletion removes

A deletion handles its inputs one after the other, and whichever it has handled when it stops, exactly
the objects for which these stand are gone: `Purge` says so of any part of the run, and one part after
another is again a purge. Only an unknown kind can stop it.
-/

namespace Reconcile

open MemoryCluster (session)

namespace MemoryCluster

/-- A cluster without what is stored under some identities. -/
def purged (ids : List Identity) (calls : List String) (c : MemoryCluster) : MemoryCluster :=
  { c with objects := c.objects.filter fun entry => entry.1 ∉ ids, calls := calls }

variable {c : MemoryCluster} {ids first second : List Identity} {id : Identity} {calls before : List String}

/-- Purging one after the other is purging both. -/
theorem purged_purged : (c.purged first before).purged second calls = c.purged (first ++ second) calls := by
  have hboth : (c.objects.filter fun entry => decide (entry.1 ∉ first)).filter
      (fun entry => decide (entry.1 ∉ second)) =
        c.objects.filter fun entry => decide (entry.1 ∉ first ++ second) := by
    rw [List.filter_filter]
    refine List.filter_congr fun entry _ => ?_
    simp [Bool.and_comm]
  simp only [purged, hboth]

/-- Which identities are purged counts, not how often or in which order. -/
theorem purged_congr (h : ∀ id, id ∈ first ↔ id ∈ second) : c.purged first calls = c.purged second calls := by
  simp only [purged, h]

/-- Purging what is not there takes nothing away. -/
theorem purged_of_missing (h : ∀ id ∈ ids, c.objects.get? id = none) (calls : List String) :
    c.purged ids calls = { c with calls := calls } := by
  have hall : c.objects.filter (fun entry => decide (entry.1 ∉ ids)) = c.objects := by
    rw [List.filter_eq_self]
    intro entry hentry
    rw [decide_eq_true_eq]
    exact fun hmem => Store.ne_of_get?_eq_none (h _ hmem) entry hentry rfl
  rw [purged, hall]

/-- Where nothing is taken away the cluster is as it was. -/
theorem purged_nil (c : MemoryCluster) : c.purged [] c.calls = c := purged_of_missing (by simp) c.calls

/-- What is taken away at one place is erased there. -/
theorem purged_singleton (id : Identity) (calls : List String) :
    c.purged [id] calls = { c with objects := c.objects.erase id, calls := calls } := by
  simp only [purged, Store.erase_eq_filter, List.mem_singleton]

/-- What is found then is what was there, except at the places that were emptied. -/
theorem get?_purged (ids : List Identity) (calls : List String) (id : Identity) :
    (c.purged ids calls).objects.get? id = if id ∈ ids then none else c.objects.get? id := by
  rw [purged, Store.get?_filter_key fun id => decide (id ∉ ids)]
  by_cases hid : id ∈ ids <;> simp [hid]

/-- Deleting without regard to the uid purges what was named, and fails if that is not there. -/
theorem delete_purges (kind : KindInfo) (scope : Option String) (name : String) {options : DeleteOptions}
    (hany : options.uid = none) :
    (∃ e, e.isNotFound = true ∧ c.objects.get? (key kind scope name) = none ∧
      c.delete kind scope name options = (.error e, c)) ∨
    (c.objects.get? (key kind scope name) ≠ none ∧
      c.delete kind scope name options = (.ok (), c.purged [key kind scope name]
        (c.calls ++ [deletionText kind (key kind scope name) options]))) := by
  rw [delete]
  cases hlive : c.objects.get? (key kind scope name) with
  | none => exact .inl ⟨_, rfl, rfl, rfl⟩
  | some current =>
    right
    simp only [hany, Option.isSome_none, Bool.false_and, Bool.false_eq_true, if_false]
    exact ⟨Option.some_ne_none current, by rw [purged_singleton, deletionText]⟩

end MemoryCluster

/-- The request by which an input is deleted, if its kind is served. -/
def Resource.deletion? (kinds : List KindInfo) (defaultScope : String) (how : DeleteOptions)
    (r : Resource) : Option Request :=
  (KindInfo.find kinds r.gvk).map fun kind => .delete kind (targetScope defaultScope kind r) r.name how

/-- What is written down when an input is deleted, if its kind is served. -/
def Resource.deletionText? (kinds : List KindInfo) (defaultScope : String) (how : DeleteOptions)
    (r : Resource) : Option String :=
  (KindInfo.find kinds r.gvk).map fun kind =>
    MemoryCluster.deletionText kind (MemoryCluster.key kind (targetScope defaultScope kind r) r.name) how

/-- How many inputs a report accounts for. -/
def DeleteReport.handled (report : DeleteReport) : Nat :=
  report.deleted.length + report.missing + report.skippedUnknown

namespace Program

section Requests

variable {σ α β : Type} (server : Server σ)

/-- The deletions that a run asks for, in order. -/
def deletionRequests (p : Program α) (s : σ) : List Request :=
  (p.requests server s).filter Request.isDeletion

/-- A program that asks for no deletion deletes nothing. -/
theorem deletionRequests_eq_nil {p : Program α} (h : p.Asks fun r => r.isDeletion = false) (s : σ) :
    p.deletionRequests server s = [] := by
  rw [deletionRequests, List.filter_eq_nil_iff]
  intro r hr
  simp [allowed_of_asks server h s r hr]

/-- A program in two parts deletes what the first one does, and then what the second one does if there
is one. -/
theorem deletionRequests_bind (p : Program α) (k : α → Program β) (s : σ) :
    (p >>= k).deletionRequests server s =
      p.deletionRequests server s ++
        match p.outcome server s with
        | (.ok a, s') => (k a).deletionRequests server s'
        | (.error _, _) => [] := by
  rw [deletionRequests, requests_bind, List.filter_append, deletionRequests]
  rcases p.outcome server s with ⟨f | a, s'⟩ <;> rfl

/-- So it does what both do where the first part succeeds. -/
theorem deletionRequests_bind_of_ok {p : Program α} {k : α → Program β} {a : α} {s s' : σ}
    (h : p.outcome server s = (.ok a, s')) :
    (p >>= k).deletionRequests server s =
      p.deletionRequests server s ++ (k a).deletionRequests server s' := by
  rw [deletionRequests_bind, h]

end Requests

variable {α β : Type} {defaultScope : String} {how : DeleteOptions} {memo memo' : Memo MemoryCluster}

/-- A program deletes the objects for which some inputs stand, with one request for each input, and
changes nothing else but the record of what was removed. -/
structure Purge (defaultScope : String) (how : DeleteOptions) (p : Program α) (memo : Memo MemoryCluster)
    (done : List Resource) : Prop where
  after : ∃ removed : List Resource, removed.Sublist done ∧ (p.outcome session memo).2 =
    { memo with
      server := memo.server.purged (done.filterMap (·.target? memo.server.kinds defaultScope))
        (memo.server.calls ++ removed.filterMap (·.deletionText? memo.server.kinds defaultScope how)) }
  asked : p.deletionRequests session memo =
    done.filterMap (·.deletion? memo.server.kinds defaultScope how)

namespace Purge

variable {p : Program α} {k : α → Program β} {done first second : List Resource} {r : Resource}

/-- A program that leaves the session as it is and deletes nothing. -/
theorem nil (hafter : (p.outcome session memo).2 = memo) (hasks : p.Asks fun r => r.isDeletion = false) :
    Purge defaultScope how p memo [] :=
  ⟨⟨[], .slnil, by simp only [hafter, List.filterMap_nil, List.append_nil, MemoryCluster.purged_nil]⟩,
    deletionRequests_eq_nil session hasks memo⟩

/-- Inputs of unknown kinds do not count. -/
theorem skip (h : Purge defaultScope how p memo done)
    (hunknown : KindInfo.find memo.server.kinds r.gvk = none) :
    Purge defaultScope how p memo (r :: done) := by
  have htarget : r.target? memo.server.kinds defaultScope = none := by
    rw [Resource.target?, hunknown, Option.map_none]
  have hrequest : r.deletion? memo.server.kinds defaultScope how = none := by
    rw [Resource.deletion?, hunknown, Option.map_none]
  obtain ⟨removed, hremoved, hafter⟩ := h.after
  refine ⟨⟨removed, hremoved.cons r, ?_⟩, ?_⟩
  · rw [List.filterMap_cons_none htarget, hafter]
  · rw [List.filterMap_cons_none hrequest]
    exact h.asked

/-- Two programs that take away the objects of some inputs each take away both. -/
theorem bind (hp : Purge defaultScope how p memo first) {a : α}
    (hok : p.outcome session memo = (.ok a, memo')) (hk : Purge defaultScope how (k a) memo' second) :
    Purge defaultScope how (p >>= k) memo (first ++ second) := by
  obtain ⟨removed, hremoved, hafter⟩ := hp.after
  obtain ⟨removed', hremoved', hafter'⟩ := hk.after
  obtain rfl := (congrArg Prod.snd hok).symm.trans hafter
  refine ⟨⟨removed ++ removed', hremoved.append hremoved', ?_⟩, ?_⟩
  · rw [outcome_bind, hok]
    dsimp only
    rw [hafter', List.filterMap_append, List.filterMap_append, ← List.append_assoc]
    exact congrArg (Memo.mk · memo.version memo.kinds) MemoryCluster.purged_purged
  · rw [deletionRequests_bind, hok, hp.asked, List.filterMap_append]
    exact congrArg _ hk.asked

/-- What fails is not followed by anything. -/
theorem bind_of_error (hp : Purge defaultScope how p memo done) {f : Failure}
    (herror : p.outcome session memo = (.error f, memo')) :
    Purge defaultScope how (p >>= k) memo done := by
  obtain ⟨removed, hremoved, hafter⟩ := hp.after
  refine ⟨⟨removed, hremoved, ?_⟩, ?_⟩
  · rw [outcome_bind, herror, ← hafter, herror]
  · rw [deletionRequests_bind, herror, hp.asked]
    exact List.append_nil _

end Purge

variable {kind : KindInfo} {r : Resource} {ignoreUnknown : Bool} {objects : List Resource}

/-- The last step of deleting an object: it is counted as deleted, or as missing. -/
def tally (description : String) (object : Resource) (report : DeleteReport) :
    Except ApiError Unit → Program DeleteReport
  | .ok _ => return { report with deleted := report.deleted ++ [object.identity] }
  | .error e =>
    if e.isNotFound then return { report with missing := report.missing + 1 }
    else .fail ((Failure.ofCause (.api e)).inContext ("error deleting " ++ description))

/-- Deleting one input asks for its deletion and counts what is answered. -/
theorem deleteOne_eq (defaultScope : String) (how : DeleteOptions) (kind : KindInfo) (r : Resource)
    (report : DeleteReport) :
    deleteOne defaultScope how kind r report = (do
      let object := r.placedIn (targetScope defaultScope kind r)
      let description ← describe object
      tell (.deleting description)
      let answer ← request (.delete kind (targetScope defaultScope kind r) object.name how)
      tally description object report answer) := by
  rw [deleteOne]
  congr 1
  funext description
  congr 2
  funext _
  congr 1
  funext answer
  cases answer <;> rfl

/-- Counting an answer asks for nothing. -/
theorem asks_tally {allowed : Request → Prop} (description : String) (object : Resource)
    (report : DeleteReport) (answer : Except ApiError Unit) :
    (tally description object report answer).Asks allowed := by
  cases answer with
  | ok _ => exact asks_pure _
  | error e =>
    rw [tally]
    split <;> trivial

/-- A deletion asks for the version and the kinds, and for deletions. -/
theorem asks_delete {allowed : Request → Prop} (hversion : allowed .version) (hkinds : allowed .kinds)
    (hdelete : ∀ kind scope name options, allowed (.delete kind scope name options)) (defaultScope : String)
    (gracePeriod : Option UInt32) (ignoreUnknown : Bool) (table : RankTable) (objects : List Resource) :
    (delete defaultScope gracePeriod ignoreUnknown table objects).Asks allowed := by
  have hone (how : DeleteOptions) (kind : KindInfo) (r : Resource) (report : DeleteReport) :
      (deleteOne defaultScope how kind r report).Asks allowed := by
    rw [deleteOne_eq]
    refine asks_bind (asks_describe hkinds _) fun description => asks_bind (asks_tell _) fun _ => ?_
    exact asks_bind (asks_request (hdelete _ _ _ _)) fun answer => asks_tally _ _ _ _
  have hall (how : DeleteOptions) (objects : List Resource) (report : DeleteReport) :
      (deleteAll defaultScope how ignoreUnknown objects report).Asks allowed := by
    induction objects generalizing report with
    | nil => exact asks_pure _
    | cons r rest ih =>
      refine asks_bind (asks_kindOf hkinds _ _) fun kind => ?_
      cases kind with
      | none => exact ih _
      | some kind => exact asks_bind (hone how kind r report) fun _ => ih _
  refine asks_bind (asks_ofExcept _) fun _ => asks_bind (asks_demand hversion) fun version => ?_
  exact asks_bind (asks_demand hkinds) fun kinds => hall _ _ _

/-- Deleting one object cannot fail: it is taken away, or was not there. -/
theorem purge_deleteOne (hkinds : memo.kinds = some memo.server.kinds) (hany : how.uid = none)
    (hkind : KindInfo.find memo.server.kinds r.gvk = some kind) (report : DeleteReport) :
    Purge defaultScope how (deleteOne defaultScope how kind r report) memo [r] ∧
      ∃ report' memo', (deleteOne defaultScope how kind r report).outcome session memo = (.ok report', memo') ∧
        report'.handled = report.handled + 1 ∧
        ((∀ id, r.target? memo.server.kinds defaultScope = some id → memo.server.objects.get? id = none) →
          report'.deleted = report.deleted) := by
  let scope := targetScope defaultScope kind r
  let object := r.placedIn scope
  have htarget : r.target? memo.server.kinds defaultScope = _ := Resource.target?_eq_key hkind defaultScope
  have hrequest : r.deletion? memo.server.kinds defaultScope how = some (.delete kind scope r.name how) := by
    rw [Resource.deletion?, hkind, Option.map_some]
  have hdescribe := outcome_describe MemoryCluster.server hkinds object
  have hanswer : (request (.delete kind scope object.name how)).outcome session memo =
      (.ok (memo.server.delete kind scope r.name how).1,
        { memo with server := (memo.server.delete kind scope r.name how).2 }) := by
    rw [outcome_request, Resource.name_placedIn]
    rfl
  have htell := outcome_tell session memo (.deleting (object.description (KindInfo.find memo.server.kinds object.gvk)))
  have houtcome : (deleteOne defaultScope how kind r report).outcome session memo =
      (tally (object.description (KindInfo.find memo.server.kinds object.gvk)) object report
        (memo.server.delete kind scope r.name how).1).outcome session
        { memo with server := (memo.server.delete kind scope r.name how).2 } := by
    rw [deleteOne_eq, outcome_bind_of_ok _ _ hdescribe, outcome_bind_of_ok _ _ htell,
      outcome_bind_of_ok _ _ hanswer]
  have hkindless : Request.isDeletion .kinds = false := rfl
  have hasked : (deleteOne defaultScope how kind r report).deletionRequests session memo =
      [.delete kind scope r.name how] := by
    rw [deleteOne_eq, deletionRequests_bind_of_ok _ hdescribe, deletionRequests_bind_of_ok _ htell,
      deletionRequests_bind_of_ok _ hanswer, deletionRequests_eq_nil _ (asks_describe hkindless _),
      deletionRequests_eq_nil _ (asks_tally _ _ _ _), ← Resource.name_placedIn r scope]
    rfl
  have hone : [r].filterMap (·.target? memo.server.kinds defaultScope) =
      [MemoryCluster.key kind scope r.name] := List.filterMap_cons_some htarget
  have hasked' : [r].filterMap (·.deletion? memo.server.kinds defaultScope how) =
      [.delete kind scope r.name how] := List.filterMap_cons_some hrequest
  have htext : [r].filterMap (·.deletionText? memo.server.kinds defaultScope how) =
      [MemoryCluster.deletionText kind (MemoryCluster.key kind scope r.name) how] := by
    rw [List.filterMap_cons, Resource.deletionText?, hkind, Option.map_some, List.filterMap_nil]
  -- it is gone already and nothing is removed, or it is removed
  obtain ⟨e, hgone, hmissing, hdelete⟩ | ⟨hfound, hdelete⟩ :=
    memo.server.delete_purges kind scope r.name hany
  · rw [hdelete, tally, if_pos hgone, outcome_pure] at houtcome
    refine ⟨⟨⟨[], List.nil_sublist _, ?_⟩, hasked.trans hasked'.symm⟩, _, _, houtcome, ?_, fun _ => rfl⟩
    · rw [houtcome, hone, MemoryCluster.purged_of_missing (by simpa using hmissing), List.filterMap_nil,
        List.append_nil]
    · simp only [DeleteReport.handled]
      omega
  · rw [hdelete, tally, outcome_pure] at houtcome
    refine ⟨⟨⟨[r], List.Sublist.refl _, ?_⟩, hasked.trans hasked'.symm⟩, _, _, houtcome, ?_, fun hnone => ?_⟩
    · rw [houtcome, hone, htext]
    · simp only [DeleteReport.handled, List.length_append, List.length_singleton]
      omega
    · exact absurd (hnone _ htarget) hfound

/-- How deleting objects from a store ends: each of them is accounted for, or some are left because the
kind of the first of these is unknown. -/
inductive Ended (kinds : List KindInfo) (defaultScope : String) (ignoreUnknown : Bool) (s : Store)
    (objects left : List Resource) (report : DeleteReport) : Except Failure DeleteReport → Prop
  | through {report' : DeleteReport} (all : left = [])
    (known : ignoreUnknown = false → ∀ r ∈ objects, KindInfo.find kinds r.gvk ≠ none)
    (handled : report'.handled = report.handled + objects.length)
    (fresh : (∀ r ∈ objects, ∀ id, r.target? kinds defaultScope = some id → s.get? id = none) →
      report'.deleted = report.deleted) :
    Ended kinds defaultScope ignoreUnknown s objects left report (.ok report')
  | stopped {f : Failure} (strict : ignoreUnknown = false)
    (unknown : ∃ r ∈ left.head?, KindInfo.find kinds r.gvk = none) :
    Ended kinds defaultScope ignoreUnknown s objects left report (.error f)

/-- One object more at the front, which is accounted for. -/
theorem Ended.cons {kinds : List KindInfo} {s s' : Store} {rest left : List Resource}
    {report between : DeleteReport} {x : Except Failure DeleteReport}
    (h : Ended kinds defaultScope ignoreUnknown s' rest left between x)
    (hless : ∀ id, s.get? id = none → s'.get? id = none)
    (hknown : ignoreUnknown = false → KindInfo.find kinds r.gvk ≠ none)
    (hcounted : between.handled = report.handled + 1)
    (hfresh : (∀ id, r.target? kinds defaultScope = some id → s.get? id = none) →
      between.deleted = report.deleted) :
    Ended kinds defaultScope ignoreUnknown s (r :: rest) left report x := by
  cases h with
  | through all known handled fresh =>
    refine .through all (fun hstrict => ?_) ?_ fun hnone => ?_
    · exact List.forall_mem_cons.mpr ⟨hknown hstrict, known hstrict⟩
    · rw [handled, hcounted, List.length_cons]
      omega
    · have hrest := fresh fun x hx id hid => hless id (hnone x (List.mem_cons_of_mem _ hx) id hid)
      rw [hrest, hfresh (hnone r List.mem_cons_self)]
  | stopped strict unknown => exact .stopped strict unknown

/-- Deleting objects handles them one after the other. It stops at an object of an unknown kind, unless
these are ignored, and otherwise gets through. -/
theorem purge_deleteAll (hkinds : memo.kinds = some memo.server.kinds) (hany : how.uid = none)
    (report : DeleteReport) :
    ∃ done left, objects = done ++ left ∧
      Purge defaultScope how (deleteAll defaultScope how ignoreUnknown objects report) memo done ∧
      Ended memo.server.kinds defaultScope ignoreUnknown memo.server.objects objects left report
        ((deleteAll defaultScope how ignoreUnknown objects report).outcome session memo).1 := by
  -- every input is looked up, skipped or deleted, and the rest starts from the store that is left
  induction objects generalizing memo report with
  | nil => exact ⟨[], [], rfl, .nil rfl (asks_pure _), .through rfl (by simp) rfl fun _ => rfl⟩
  | cons r rest ih =>
    have hkindless : Request.isDeletion .kinds = false := rfl
    have hkindOf := outcome_kindOf MemoryCluster.server hkinds ignoreUnknown r
    have hlook : Purge defaultScope how (kindOf ignoreUnknown r) memo [] :=
      .nil (congrArg Prod.snd hkindOf) (asks_kindOf hkindless ignoreUnknown r)
    cases hkind : KindInfo.find memo.server.kinds r.gvk with
    | none =>
      cases ignoreUnknown with
      | false =>
        simp only [hkind, Bool.false_eq_true, if_false] at hkindOf
        refine ⟨[], r :: rest, rfl, hlook.bind_of_error hkindOf, ?_⟩
        rw [deleteAll, outcome_bind, hkindOf]
        exact .stopped rfl ⟨r, rfl, hkind⟩
      | true =>
        simp only [hkind, if_true] at hkindOf
        obtain ⟨done, left, hsplit, hpurge, hend⟩ :=
          ih hkinds { report with skippedUnknown := report.skippedUnknown + 1 }
        refine ⟨r :: done, left, by rw [hsplit, List.cons_append],
          (hlook.bind hkindOf hpurge).skip hkind, ?_⟩
        rw [deleteAll, outcome_bind_of_ok _ _ hkindOf]
        dsimp only
        refine hend.cons (fun _ => id) (fun hstrict => ?_) ?_ fun _ => rfl
        · contradiction
        · simp only [DeleteReport.handled]
          omega
    | some kind =>
      simp only [hkind] at hkindOf
      obtain ⟨hone, between, memo₁, houtcome, hcounted, hfresh⟩ :=
        @purge_deleteOne defaultScope how memo kind r hkinds hany hkind report
      obtain ⟨removed, -, hafter⟩ := hone.after
      obtain rfl : memo₁ = _ := (congrArg Prod.snd houtcome).symm.trans hafter
      obtain ⟨done, left, hsplit, hpurge, hend⟩ := @ih
        { memo with
          server := memo.server.purged ([r].filterMap (·.target? memo.server.kinds defaultScope))
            (memo.server.calls ++ removed.filterMap (·.deletionText? memo.server.kinds defaultScope how)) }
        hkinds between
      refine ⟨r :: done, left, by rw [hsplit, List.cons_append],
        hlook.bind hkindOf (hone.bind houtcome hpurge), ?_⟩
      rw [deleteAll, outcome_bind_of_ok _ _ hkindOf]
      dsimp only
      rw [outcome_bind_of_ok _ _ houtcome]
      refine hend.cons (fun id hnone => ?_) (fun _ => ?_) hcounted hfresh
      · rw [MemoryCluster.get?_purged, hnone, ite_self]
      · exact fun hnone => Option.some_ne_none kind (hkind.symm.trans hnone)

variable {gracePeriod : Option UInt32} {table : RankTable}

/-- Once the inputs are accepted, a deletion asks what the server is and deletes them in the reverse of
creation order. -/
theorem purge_delete (hknows : KnowsKinds memo) (haccepted : checkDuplicates objects = .ok ()) :
    let program := delete defaultScope gracePeriod ignoreUnknown table objects
    let ordered := deletionOrder table (KindInfo.scopes memo.server.kinds) objects
    ∃ how : DeleteOptions, how.gracePeriod = gracePeriod ∧ ∃ done left, ordered = done ++ left ∧
      (∃ removed count, List.Sublist removed done ∧ (program.outcome session memo).2.server =
        (memo.server.purged (done.filterMap (·.target? memo.server.kinds defaultScope))
          (memo.server.calls ++
            removed.filterMap (·.deletionText? memo.server.kinds defaultScope how))).asked count) ∧
      program.deletionRequests session memo =
        done.filterMap (·.deletion? memo.server.kinds defaultScope how) ∧
      Ended memo.server.kinds defaultScope ignoreUnknown memo.server.objects ordered left ⟨[], 0, 0⟩
        (program.outcome session memo).1 := by
  intro program ordered
  obtain ⟨version, known, count, hversion⟩ := outcome_demand_version memo
  obtain ⟨count', hdemand⟩ := @outcome_demand_kinds_of_knows
    { memo with server := memo.server.asked count, version := known } hknows
  let how : DeleteOptions := { DeleteOptions.forVersion version with gracePeriod }
  let told : Memo MemoryCluster :=
    { server := memo.server.asked count', version := known, kinds := some memo.server.kinds }
  have hversionless : Request.isDeletion .version = false := rfl
  have hkindless : Request.isDeletion .kinds = false := rfl
  have hprogram : program = (do
      let version ← demand .version
      let kinds ← demand .kinds
      deleteAll defaultScope { DeleteOptions.forVersion version with gracePeriod } ignoreUnknown
        (deletionOrder table (KindInfo.scopes kinds) objects) ⟨[], 0, 0⟩) := by
    show delete _ _ _ _ _ = _
    rw [delete, haccepted]
    rfl
  have houtcome : program.outcome session memo =
      (deleteAll defaultScope how ignoreUnknown ordered ⟨[], 0, 0⟩).outcome session told := by
    rw [hprogram, outcome_bind_of_ok _ _ hversion, outcome_bind_of_ok _ _ hdemand]
    rfl
  have hasked : program.deletionRequests session memo =
      (deleteAll defaultScope how ignoreUnknown ordered ⟨[], 0, 0⟩).deletionRequests session told := by
    rw [hprogram, deletionRequests_bind_of_ok _ hversion, deletionRequests_bind_of_ok _ hdemand,
      deletionRequests_eq_nil _ (asks_demand hversionless), deletionRequests_eq_nil _ (asks_demand hkindless)]
    rfl
  obtain ⟨done, left, hsplit, hpurge, hend⟩ :=
    @purge_deleteAll defaultScope how told ignoreUnknown ordered rfl rfl ⟨[], 0, 0⟩
  obtain ⟨removed, hremoved, hafter⟩ := hpurge.after
  refine ⟨how, rfl, done, left, hsplit, ⟨removed, count', hremoved, ?_⟩, hasked.trans hpurge.asked, ?_⟩
  · rw [houtcome, hafter]
    rfl
  · rw [houtcome]
    exact hend

/-- Where nothing is left to delete, a deletion succeeds and deletes nothing. -/
theorem delete_of_gone (hknows : KnowsKinds memo) (haccepted : checkDuplicates objects = .ok ())
    (hknown : ignoreUnknown = false → ∀ r ∈ objects, KindInfo.find memo.server.kinds r.gvk ≠ none)
    (hgone : ∀ r ∈ objects, ∀ id, r.target? memo.server.kinds defaultScope = some id →
      memo.server.objects.get? id = none) :
    ∃ report memo', (delete defaultScope gracePeriod ignoreUnknown table objects).outcome session memo =
      (.ok report, memo') ∧ report.deleted = [] ∧ memo'.server.objects = memo.server.objects := by
  obtain ⟨how, -, done, left, hsplit, ⟨removed, count, -, hserver⟩, -, hend⟩ :=
    @purge_delete defaultScope memo ignoreUnknown objects gracePeriod table hknows haccepted
  have hmem : ∀ r, r ∈ deletionOrder table (KindInfo.scopes memo.server.kinds) objects ↔ r ∈ objects :=
    fun r => (deletionOrder_perm table (KindInfo.scopes memo.server.kinds) objects).mem_iff
  rcases hrun : (delete defaultScope gracePeriod ignoreUnknown table objects).outcome session memo with
    ⟨f | report, memo'⟩
  · rw [hrun] at hend
    cases hend with
    | stopped strict unknown =>
      obtain ⟨r, hr, hnone⟩ := unknown
      have hleft : r ∈ left := List.mem_of_mem_head? hr
      have hobject : r ∈ objects := (hmem r).mp (hsplit ▸ List.mem_append_right done hleft)
      exact absurd hnone (hknown strict r hobject)
  · rw [hrun] at hend hserver
    cases hend with
    | through all _ handled fresh =>
      refine ⟨report, memo', rfl, fresh fun r hr => hgone r ((hmem r).mp hr), ?_⟩
      have hmissing : ∀ id ∈ done.filterMap (·.target? memo.server.kinds defaultScope),
          memo.server.objects.get? id = none := by
        intro id hid
        obtain ⟨r, hr, htarget⟩ := List.mem_filterMap.mp hid
        exact hgone r ((hmem r).mp (hsplit ▸ List.mem_append_left left hr)) id htarget
      rw [hserver, MemoryCluster.purged_of_missing hmissing]
      rfl

/-- A deletion removes exactly what it was given. When it succeeds, the objects for which its inputs
stand are gone and all others are as they were; every input is accounted for; the requests come in
exactly the reverse of creation order; and the same deletion once more deletes nothing. When it fails,
which only an unknown kind can make it do, it has removed the objects for which the first of its inputs
stand, and changed nothing else. -/
theorem delete_removes_targets (hknows : KnowsKinds memo) (haccepted : checkDuplicates objects = .ok ()) :
    let program := delete defaultScope gracePeriod ignoreUnknown table objects
    let ordered := (creationOrder table (KindInfo.scopes memo.server.kinds) objects).reverse
    let targets := List.filterMap (Resource.target? memo.server.kinds defaultScope)
    let texts (how : DeleteOptions) := List.filterMap (Resource.deletionText? memo.server.kinds defaultScope how)
    ∃ how : DeleteOptions, how.gracePeriod = gracePeriod ∧
      match program.outcome session memo with
      | (.ok report, memo') =>
        (∃ removed count, List.Sublist removed ordered ∧ memo'.server =
            (memo.server.purged (targets objects) (memo.server.calls ++ texts how removed)).asked count) ∧
          report.deleted.length + report.missing + report.skippedUnknown = objects.length ∧
          program.deletionRequests session memo =
            ordered.filterMap (·.deletion? memo.server.kinds defaultScope how) ∧
          ∀ later : Memo MemoryCluster, later.server = memo'.server → KnowsKinds later →
            ∃ again final, program.outcome session later = (.ok again, final) ∧ again.deleted = [] ∧
              final.server.objects = memo'.server.objects
      | (.error _, memo') =>
        (ignoreUnknown = false ∧ ∃ r ∈ objects, KindInfo.find memo.server.kinds r.gvk = none) ∧
          ∃ done, done <+: ordered ∧
            (∃ removed count, List.Sublist removed done ∧ memo'.server =
              (memo.server.purged (targets done) (memo.server.calls ++ texts how removed)).asked count) ∧
            program.deletionRequests session memo =
              done.filterMap (·.deletion? memo.server.kinds defaultScope how) := by
  intro program ordered targets texts
  obtain ⟨how, hgrace, done, left, hsplit, ⟨removed, count, hremoved, hserver⟩, hasked, hend⟩ :=
    @purge_delete defaultScope memo ignoreUnknown objects gracePeriod table hknows haccepted
  refine ⟨how, hgrace, ?_⟩
  have hperm := deletionOrder_perm table (KindInfo.scopes memo.server.kinds) objects
  rcases hrun : program.outcome session memo with ⟨f | report, memo'⟩
  · rw [hrun] at hserver hend
    cases hend with
    | stopped strict unknown =>
      obtain ⟨r, hr, hnone⟩ := unknown
      have hleft : r ∈ left := List.mem_of_mem_head? hr
      have hobject : r ∈ objects := hperm.mem_iff.mp (hsplit ▸ List.mem_append_right done hleft)
      exact ⟨⟨strict, r, hobject, hnone⟩, done, ⟨left, hsplit.symm⟩, ⟨removed, count, hremoved, hserver⟩,
        hasked⟩
  · rw [hrun] at hserver hend
    cases hend with
    | through all known handled fresh =>
      obtain rfl : ordered = done := by
        rw [all, List.append_nil] at hsplit
        exact hsplit
      have htargets : ∀ id, id ∈ targets ordered ↔ id ∈ targets objects :=
        fun id => (hperm.filterMap _).mem_iff
      have hpurged := hserver.trans
        (congrArg (MemoryCluster.asked count) (MemoryCluster.purged_congr htargets))
      refine ⟨⟨removed, count, hremoved, hpurged⟩, ?_, hasked, fun later hlater hknowsLater => ?_⟩
      · rw [hperm.length_eq] at handled
        exact handled.trans (Nat.zero_add _)
      -- once more every kind is known, and nothing is where the inputs point
      · rw [← hlater] at hpurged ⊢
        refine delete_of_gone hknowsLater haccepted (fun hstrict r hr => ?_) fun r hr id hid => ?_
        · rw [hpurged]
          exact known hstrict r (hperm.mem_iff.mpr hr)
        · rw [hpurged] at hid ⊢
          have hmem : id ∈ targets objects := List.mem_filterMap.mpr ⟨r, hr, hid⟩
          exact (MemoryCluster.get?_purged (targets objects) memo.server.calls id).trans (if_pos hmem)

/-- A list in which a namespace is left out once and stated once stands for one object: it goes once,
the input that finds it gone counts as missing, and an unknown kind as skipped. -/
theorem delete_removes_targets_of_shared_one :
    let configMap (metadata : Fields) : Fields :=
      [("apiVersion", .string "v1"), ("kind", .string "ConfigMap"), ("metadata", .object metadata)]
    let plain : Resource := ⟨configMap [("name", .string "a")], by decide, by decide, by decide⟩
    let placed : Resource :=
      ⟨configMap [("name", .string "a"), ("namespace", .string "default")], by decide, by decide, by decide⟩
    let other : Resource := ⟨configMap [("name", .string "b")], by decide, by decide, by decide⟩
    let unknown : Resource :=
      ⟨[("apiVersion", .string "v1"), ("kind", .string "Gadget"), ("metadata", .object [("name", .string "a")])],
        by decide, by decide, by decide⟩
    let kind : KindInfo := ⟨⟨"", "v1", "ConfigMap"⟩, "configmaps", .namespaced, KindInfo.everyVerb⟩
    let empty : MemoryCluster := MemoryCluster.empty MemoryCluster.standardKinds ⟨1, 28⟩
    let cluster := ((empty.create kind (some "default") plain).2.create kind (some "default") other).2
    let run := (delete "default" none true .standard [plain, unknown, placed]).outcome session
      { server := cluster }
    ∃ report, run.1 = .ok report ∧ report.deleted.length + report.missing + report.skippedUnknown = 3 ∧
      run.2.server.objects.map (·.1) = [⟨⟨"", "v1", "ConfigMap"⟩, some "default", "b"⟩] := by
  intro configMap plain placed other unknown kind empty cluster run
  have haccepted : checkDuplicates [plain, unknown, placed] = .ok () := (checkDuplicates_iff _).mpr (by decide)
  obtain ⟨how, -, hends⟩ := @delete_removes_targets "default" { server := cluster } true
    [plain, unknown, placed] none .standard (.inl rfl) haccepted
  rcases hrun : run with ⟨f | report, memo'⟩
  · rw [show (delete _ _ _ _ _).outcome session _ = _ from hrun] at hends
    exact absurd hends.1.1 Bool.noConfusion
  · rw [show (delete _ _ _ _ _).outcome session _ = _ from hrun] at hends
    obtain ⟨⟨removed, count, -, hserver⟩, htotal, -⟩ := hends
    refine ⟨report, rfl, htotal, ?_⟩
    rw [show memo'.server.objects = _ from congrArg (·.objects) hserver]
    show (List.filter _ cluster.objects).map (·.1) = _
    decide +kernel

end Program

end Reconcile
