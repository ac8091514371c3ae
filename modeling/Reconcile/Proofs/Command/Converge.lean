import Mathlib.Data.List.Basic
import Reconcile.Proofs.Command.Collect
import Reconcile.Proofs.Command.Settled
import Reconcile.Proofs.Program.Reads
import Reconcile.Proofs.Snapshot.RoundTrip

/-!
# Updates that have nothing to do

An update leaves a cluster at rest: every input is settled, and nothing of the tag is garbage. On a
cluster at rest an update only reads, so whoever runs an update again changes nothing.
-/

namespace Reconcile

open MemoryCluster (keyOf session)

namespace Program

section Reads

variable {memo : Memo MemoryCluster} {defaultScope : String} {options : UpdateOptions} {kind : KindInfo}
  {r live : Resource}

/-- Describing an object only reads. -/
theorem reads_describe (hkinds : memo.kinds = some memo.server.kinds) (r : Resource) :
    ∃ description, Reads session (describe r) memo description memo :=
  ⟨_, reads_of_asks (outcome_describe _ hkinds r) (asks_describe Request.unchanging_kinds r)⟩

/-- So does finding out the kind of an input that is known or may be passed over. -/
theorem reads_kindOf (hkinds : memo.kinds = some memo.server.kinds)
    (hignored : KindInfo.find memo.server.kinds r.gvk = none → options.ignoreUnknown = true) :
    Reads session (kindOf options.ignoreUnknown r) memo (KindInfo.find memo.server.kinds r.gvk) memo := by
  refine reads_of_asks ?_ (asks_kindOf Request.unchanging_kinds _ r)
  rw [outcome_kindOf _ hkinds]
  cases hkind : KindInfo.find memo.server.kinds r.gvk with
  | some kind => rfl
  | none => simp only [hignored hkind, if_true]

/-- A collection that finds no garbage only reads. -/
theorem reads_collect (sound : memo.server.Sound) (hkinds : memo.kinds = some memo.server.kinds)
    {options : CollectOptions} (hsearch : memo.server.CanSearch options) {seen : Seen}
    {ids : List Identity} (hcovers : seen.Covers memo.server ids)
    (hclean : ∀ entry ∈ memo.server.objects, memo.server.isGarbage options ids entry = false)
    (table : RankTable) :
    ∃ report count version,
      Reads session (collect options seen table) memo report
        { memo with server := memo.server.asked count, version := version } ∧
      report.deleted = [] := by
  obtain ⟨found, count, version, houtcome, -, hsearched⟩ := outcome_search sound hkinds hsearch seen
  have hnone : found.gathering.doomed = [] := by
    refine List.eq_nil_iff_forall_not_mem.mpr fun r hr => ?_
    obtain ⟨id, -, hobject, -⟩ := stored_of_searched sound hsearched hr
    have hgarbage := (sound.mem_doomed_iff hcovers hsearched hobject).mp hr
    rw [hclean (id, r) (sound.mem_iff.mpr hobject)] at hgarbage
    exact Bool.false_ne_true hgarbage
  have hasks : (search options seen).Asks Request.Unchanging := by
    refine asks_search ?_ ?_ (fun _ _ _ => ?_) options seen <;> rfl
  have hswept : Reads session (sweep options table found)
      { memo with server := memo.server.asked count, version := version }
      { considered := found.gathering.considered, deleted := [], wouldDelete := [], raced := 0
        forbiddenLists := found.gathering.forbiddenLists }
      { memo with server := memo.server.asked count, version := version } := by
    have hempty := (deletionOrder_perm table (KindInfo.scopes found.kinds) []).eq_nil
    rw [sweep, hnone, hempty]
    exact reads_pure _
  rw [collect_eq_phases]
  exact ⟨_, count, version, (reads_of_asks houtcome hasks).bind hswept, rfl⟩

/-- What is listed with one remark each is known from the list and the remark. -/
theorem eq_map_of_fst {entries : List (Identity × Outcome)} {ids : List Identity}
    (hids : entries.map (·.1) = ids) (hsame : ∀ entry ∈ entries, entry.2 = .unchanged) :
    entries = ids.map fun id => (id, .unchanged) := by
  rw [← hids, List.map_map]
  have hentry : ∀ entry ∈ entries, ((fun id => (id, Outcome.unchanged)) ∘ (·.1)) entry = id entry :=
    fun entry hentry => Prod.ext rfl (hsame entry hentry).symm
  exact ((List.map_congr_left hentry).trans (List.map_id entries)).symm

variable [Compression]

/-- Looking at an object that needs no change only reads. -/
theorem reads_patchExisting {object : Resource} {description : String}
    (hnoop : MergePatch.isNoop (object.patchTo live) = true) :
    Reads session (patchExisting options kind object live description) memo (live, .unchanged) memo := by
  rw [patchExisting_eq]
  refine (reads_of_asks (outcome_tellAll _ _ _) (asks_tellAll _)).bind ?_
  rw [if_pos hnoop]
  exact reads_pure _

/-- Bringing a settled input onto a cluster only reads. -/
theorem reads_applyOne (hkinds : memo.kinds = some memo.server.kinds)
    (hplaced : targetScope defaultScope kind r ≠ some "")
    (hlive : memo.server.objects.get?
      (keyOf kind (r.submitted (targetScope defaultScope kind r) options.gcTag)) = some live)
    (hnoop : MergePatch.isNoop
      ((r.submitted (targetScope defaultScope kind r) options.gcTag).patchTo live) = true) :
    Reads session (applyOne defaultScope options kind r) memo (live, .unchanged) memo := by
  obtain ⟨description, hdescribe⟩ :=
    reads_describe hkinds (r.submitted (targetScope defaultScope kind r) options.gcTag)
  have hanswer : session.answer (.get kind (targetScope defaultScope kind r)
      (r.submitted (targetScope defaultScope kind r) options.gcTag).name) memo = (.ok live, memo) := by
    show (memo.server.get kind (targetScope defaultScope kind r) _, memo) = _
    rw [MemoryCluster.get, Resource.name_submitted, key_submitted hplaced options.gcTag, hlive]
  have hget := reads_of_asks (outcome_request session memo
    (.get kind (targetScope defaultScope kind r)
      (r.submitted (targetScope defaultScope kind r) options.gcTag).name)) (asks_request rfl)
  rw [hanswer] at hget
  rw [applyOne]
  refine hdescribe.bind ((reads_of_asks (outcome_tell _ _ _) (asks_tell _)).bind (Reads.inContext ?_))
  exact hget.bind (reads_patchExisting hnoop)

/-- Bringing settled inputs onto a cluster only reads and leaves each of them unchanged. -/
theorem reads_applyAll (hkinds : memo.kinds = some memo.server.kinds) {objects : List Resource}
    (hplaced : ∀ r ∈ objects, ∀ kind, KindInfo.find memo.server.kinds r.gvk = some kind →
      targetScope defaultScope kind r ≠ some "")
    (hignored : ∀ r ∈ objects, KindInfo.find memo.server.kinds r.gvk = none →
      options.ignoreUnknown = true)
    (hsettled : ∀ r ∈ objects, memo.server.Settled defaultScope options.gcTag r)
    {report : UpdateReport} (hreport : ∀ entry ∈ report.applied, entry.2 = .unchanged) :
    ∃ report', Reads session (applyAll defaultScope options objects report) memo report' memo ∧
      ∀ entry ∈ report'.applied, entry.2 = .unchanged := by
  induction objects generalizing report with
  | nil => exact ⟨report, reads_pure report, hreport⟩
  | cons r rest ih =>
    have ih {report : UpdateReport} := @ih (fun r hr => hplaced r (List.mem_cons_of_mem _ hr))
      (fun r hr => hignored r (List.mem_cons_of_mem _ hr))
      (fun r hr => hsettled r (List.mem_cons_of_mem _ hr)) report
    have hkindOf := reads_kindOf hkinds (hignored r List.mem_cons_self)
    cases hkind : KindInfo.find memo.server.kinds r.gvk with
    | none =>
      rw [hkind] at hkindOf
      obtain ⟨report', hrest, hunchanged⟩ :=
        @ih { report with skippedUnknown := report.skippedUnknown + 1 } hreport
      exact ⟨report', hkindOf.bind hrest, hunchanged⟩
    | some kind =>
      rw [hkind] at hkindOf
      obtain ⟨live, hlive, hnoop⟩ := hsettled r List.mem_cons_self kind hkind
      have hone := reads_applyOne hkinds (hplaced r List.mem_cons_self kind hkind) hlive hnoop
      have hnow : ∀ entry ∈ report.applied ++ [(live.identity, Outcome.unchanged)],
          entry.2 = .unchanged := by
        intro entry hentry
        rcases List.mem_append.mp hentry with hentry | hentry
        · exact hreport entry hentry
        · rw [List.mem_singleton.mp hentry]
      obtain ⟨report', hrest, hunchanged⟩ := @ih
        { report with
          seen := report.seen.insert live
          applied := report.applied ++ [(live.identity, .unchanged)] } hnow
      exact ⟨report', hkindOf.bind (hone.bind hrest), hunchanged⟩

end Reads

end Program

section Rest

variable [Compression]

/-- What a finished update leaves behind: every input is settled, and nothing of the tag is garbage,
so far as that was asked for. -/
structure MemoryCluster.AtRest (defaultScope : String) (options : UpdateOptions)
    (objects : List Resource) (c : MemoryCluster) : Prop where
  settled : ∀ r ∈ objects, c.Settled defaultScope options.gcTag r
  ignored : ∀ r ∈ objects, KindInfo.find c.kinds r.gvk = none → options.ignoreUnknown = true
  searchable : ∀ tag, options.gcTag = some tag → options.skipGc = false →
    c.CanSearch (Program.collectOptions options tag)
  clean : ∀ tag, options.gcTag = some tag → options.skipGc = false → ∀ entry ∈ c.objects,
    c.isGarbage (Program.collectOptions options tag)
      (objects.filterMap (Resource.storedAt? c.kinds defaultScope)) entry = false

namespace Program

variable {memo memo' : Memo MemoryCluster} {defaultScope : String} {options : UpdateOptions}
  {table : RankTable} {objects : List Resource} {report : UpdateReport}

/-- The second phase of an update leaves what was applied and puts the cluster to rest. -/
theorem atRest_of_collectPhase (sound : memo.server.Sound)
    (hkinds : memo.kinds = some memo.server.kinds) (hdry : options.dryRun = false)
    {applied : UpdateReport}
    (hcovers : applied.seen.Covers memo.server
      (objects.filterMap (Resource.storedAt? memo.server.kinds defaultScope)))
    (hsettled : ∀ r ∈ objects, memo.server.Settled defaultScope options.gcTag r)
    (hignored : ∀ r ∈ objects, KindInfo.find memo.server.kinds r.gvk = none →
      options.ignoreUnknown = true)
    (h : (collectPhase options table applied).outcome session memo = (.ok report, memo')) :
    memo'.server.AtRest defaultScope options objects ∧ memo'.server.Sound ∧
      memo'.server.kinds = memo.server.kinds ∧ report.applied = applied.applied ∧
      ∀ r ∈ objects, memo'.server.heldFor defaultScope r = memo.server.heldFor defaultScope r := by
  by_cases hcollects : ∃ tag, options.gcTag = some tag ∧ options.skipGc = false
  · obtain ⟨tag, htag, hskip⟩ := hcollects
    obtain ⟨gc, rfl, hsearch, hcollected⟩ :=
      collected_of_collectPhase sound hkinds hdry htag hskip hcovers h
    have hplace : ∀ r ∈ objects, ∀ id, r.storedAt? memo.server.kinds defaultScope = some id →
        memo'.server.objects.get? id = memo.server.objects.get? id :=
      fun r hr id hid => hcollected.get?_of_mem sound (List.mem_filterMap.mpr ⟨r, hr, hid⟩)
    refine ⟨⟨fun r hr => ?_, ?_, ?_, ?_⟩, hcollected.sound sound, hcollected.kinds_eq, rfl,
      fun r hr => ?_⟩
    · exact (hsettled r hr).congr hcollected.kinds_eq (hplace r hr)
    · rw [hcollected.kinds_eq]
      exact hignored
    · intro other hother _
      obtain rfl := Option.some.inj (htag.symm.trans hother)
      exact hsearch.congr hcollected.kinds_eq hcollected.forbidden_eq
    · intro other hother _ entry hentry
      obtain rfl := Option.some.inj (htag.symm.trans hother)
      rw [hcollected.kinds_eq]
      exact hcollected.isGarbage_eq_false hentry
    · exact MemoryCluster.heldFor_congr hcollected.kinds_eq (hplace r hr)
  · simp only [collectPhase_of_none hcollects, outcome_pure, Prod.mk.injEq, Except.ok.injEq] at h
    obtain ⟨rfl, rfl⟩ := h
    refine ⟨⟨hsettled, hignored, ?_, ?_⟩, sound, rfl, rfl, fun _ _ => rfl⟩
    · exact fun tag htag hskip => absurd ⟨tag, htag, hskip⟩ hcollects
    · exact fun tag htag hskip => absurd ⟨tag, htag, hskip⟩ hcollects

/-- An update that succeeds puts the cluster to rest. -/
theorem atRest_of_update (sound : memo.server.Sound) (hknows : KnowsKinds memo)
    (hplain : ∀ r ∈ objects, r.Plain)
    (hfaithful : ∀ r ∈ objects, ∀ kind, KindInfo.find memo.server.kinds r.gvk = some kind →
      Snapshot.Faithful ((r.placedIn (targetScope defaultScope kind r)).marked options.gcTag))
    (hapart : objects.Pairwise fun a b => ¬Resource.SharesTarget memo.server.kinds defaultScope a b)
    (hdry : options.dryRun = false)
    (h : (update defaultScope options table objects).outcome session memo = (.ok report, memo')) :
    let ordered := creationOrder table (KindInfo.scopes memo.server.kinds) objects
    memo'.server.AtRest defaultScope options ordered ∧ memo'.server.Sound ∧
      memo'.server.kinds = memo.server.kinds ∧
      report.applied.map (·.1) = ordered.filterMap (memo'.server.heldFor defaultScope) := by
  intro ordered
  have hmem (r : Resource) : r ∈ ordered ↔ r ∈ objects := (creationOrder_perm table _ objects).mem_iff
  obtain ⟨count, c, applied, hall, -, hcollect⟩ :=
    phases_of_update sound.keyed hknows (fun r hr => (hplain r hr).submittable) hdry h
  have hasked := sound.asked count
  have hkinds : c.kinds = memo.server.kinds := hall.kinds_eq
  have hstored : StoredApart memo.server.kinds defaultScope ordered :=
    storedApart_of_targets (creationOrder_perm table _ objects) hapart
  let between : Memo MemoryCluster := { memo with server := c, kinds := some c.kinds }
  have hsound : between.server.Sound := hall.sound hasked
  have hcovers : applied.seen.Covers between.server
      (ordered.filterMap (Resource.storedAt? between.server.kinds defaultScope)) := by
    rw [show between.server.kinds = memo.server.kinds from hkinds]
    exact hall.covers hasked (Seen.Covers.empty _)
  have hsettled : ∀ r ∈ ordered, between.server.Settled defaultScope options.gcTag r :=
    hall.settled hasked.keyed (fun r hr => hplain r ((hmem r).mp hr)) (fun r hr => hfaithful r ((hmem r).mp hr))
      hstored
  have hignored : ∀ r ∈ ordered, KindInfo.find between.server.kinds r.gvk = none →
      options.ignoreUnknown = true := by
    rw [show between.server.kinds = memo.server.kinds from hkinds]
    exact hall.ignored
  obtain ⟨hrest, hsound', hkinds', happlied, hheld⟩ :=
    atRest_of_collectPhase hsound rfl hdry hcovers hsettled hignored hcollect
  refine ⟨hrest, hsound', hkinds'.trans hkinds, ?_⟩
  rw [happlied, hall.applied_eq hstored]
  exact List.filterMap_congr fun r hr => (hheld r hr).symm

/-- On a cluster at rest the first phase of an update only reads. -/
theorem reads_applyPhase (hknows : KnowsKinds memo) (hcheck : checkUpdate objects options.gcTag = .ok ())
    (hplaced : ∀ r ∈ objects, ∀ kind, KindInfo.find memo.server.kinds r.gvk = some kind →
      targetScope defaultScope kind r ≠ some "")
    (hrest : memo.server.AtRest defaultScope options
      (creationOrder table (KindInfo.scopes memo.server.kinds) objects)) :
    ∃ applied count,
      Reads session (applyPhase defaultScope options table objects) memo applied
        { memo with server := memo.server.asked count, kinds := some memo.server.kinds } ∧
      Reads session (applyAll defaultScope options
          (creationOrder table (KindInfo.scopes memo.server.kinds) objects) .empty)
        { memo with server := memo.server.asked count, kinds := some memo.server.kinds } applied
        { memo with server := memo.server.asked count, kinds := some memo.server.kinds } ∧
      ∀ entry ∈ applied.applied, entry.2 = .unchanged := by
  obtain ⟨count, hdemand⟩ := outcome_demand_kinds_of_knows hknows
  have hperm := creationOrder_perm table (KindInfo.scopes memo.server.kinds) objects
  obtain ⟨applied, hall, hunchanged⟩ := @reads_applyAll
    { memo with server := memo.server.asked count, kinds := some memo.server.kinds }
    defaultScope options _ rfl
    (creationOrder table (KindInfo.scopes memo.server.kinds) objects)
    (fun r hr => hplaced r (hperm.mem_iff.mp hr)) hrest.ignored hrest.settled .empty
    (by simp [UpdateReport.empty])
  refine ⟨applied, count, ?_, hall, hunchanged⟩
  rw [applyPhase, hcheck]
  refine (reads_of_asks (outcome_ofExcept _ _ _) (asks_ofExcept _)).bind ?_
  refine (reads_of_asks hdemand (asks_demand Request.unchanging_kinds)).bind ?_
  exact (reads_of_asks (outcome_tell _ _ _) (asks_tell _)).bind hall

/-- On a cluster at rest the second phase of an update only reads and deletes nothing. -/
theorem reads_collectPhase (sound : memo.server.Sound) (hkinds : memo.kinds = some memo.server.kinds)
    (hrest : memo.server.AtRest defaultScope options objects) {applied : UpdateReport}
    (hcovers : applied.seen.Covers memo.server
      (objects.filterMap (Resource.storedAt? memo.server.kinds defaultScope)))
    (hgc : applied.gc = none) :
    ∃ report final count, Reads session (collectPhase options table applied) memo report final ∧
      final.server = memo.server.asked count ∧ report.applied = applied.applied ∧
      ∀ gc, report.gc = some gc → gc.deleted = [] := by
  by_cases hcollects : ∃ tag, options.gcTag = some tag ∧ options.skipGc = false
  · obtain ⟨tag, htag, hskip⟩ := hcollects
    obtain ⟨gc, count, version, hcollect, hdeleted⟩ := reads_collect sound hkinds
      (hrest.searchable tag htag hskip) hcovers (hrest.clean tag htag hskip) table
    rw [collectPhase_of_tag htag hskip]
    refine ⟨_, _, count, hcollect.bind (reads_pure _), rfl, rfl, fun other hother => ?_⟩
    exact Option.some.inj hother ▸ hdeleted
  · rw [collectPhase_of_none hcollects]
    exact ⟨applied, memo, memo.server.discoveries, reads_pure _, rfl, rfl, by simp [hgc]⟩

/-- On a cluster at rest an update only reads: it leaves every input unchanged and deletes nothing. -/
theorem reads_update_of_atRest (sound : memo.server.Sound) (hknows : KnowsKinds memo)
    (hinputs : ∀ r ∈ objects, r.Submittable)
    (hplaced : ∀ r ∈ objects, ∀ kind, KindInfo.find memo.server.kinds r.gvk = some kind →
      targetScope defaultScope kind r ≠ some "")
    (hapart : objects.Pairwise fun a b => ¬Resource.SharesTarget memo.server.kinds defaultScope a b)
    (hdry : options.dryRun = false) (hcheck : checkUpdate objects options.gcTag = .ok ())
    (hrest : memo.server.AtRest defaultScope options
      (creationOrder table (KindInfo.scopes memo.server.kinds) objects)) :
    ∃ report final count,
      Reads session (update defaultScope options table objects) memo report final ∧
      final.server = memo.server.asked count ∧
      report.applied = ((creationOrder table (KindInfo.scopes memo.server.kinds) objects).filterMap
        (memo.server.heldFor defaultScope)).map (fun id => (id, .unchanged)) ∧
      ∀ gc, report.gc = some gc → gc.deleted = [] := by
  have hperm := creationOrder_perm table (KindInfo.scopes memo.server.kinds) objects
  obtain ⟨applied, count, hphase, hall, hunchanged⟩ := reads_applyPhase hknows hcheck hplaced hrest
  let asked : Memo MemoryCluster :=
    { memo with server := memo.server.asked count, kinds := some memo.server.kinds }
  have hasked : asked.server.Sound := sound.asked count
  obtain ⟨c', hbrought, hmemo⟩ := broughtAll_of_applyAll hasked.keyed rfl
    (fun r hr => hinputs r (hperm.mem_iff.mp hr)) hdry hall.outcome
  obtain rfl : asked.server = c' := congrArg Memo.server hmemo
  have hstored : StoredApart asked.server.kinds defaultScope
      (creationOrder table (KindInfo.scopes memo.server.kinds) objects) :=
    storedApart_of_targets hperm hapart
  have hrest' : asked.server.AtRest defaultScope options
      (creationOrder table (KindInfo.scopes memo.server.kinds) objects) :=
    ⟨hrest.settled, hrest.ignored, hrest.searchable, hrest.clean⟩
  obtain ⟨report, final, count', hcollect, hfinal, happlied, hdeleted⟩ :=
    reads_collectPhase hasked rfl hrest' (hbrought.covers hasked (Seen.Covers.empty _)) hbrought.gc_eq
  refine ⟨report, final, count', ?_, hfinal, ?_, hdeleted⟩
  · rw [update_eq_phases]
    exact hphase.bind hcollect
  · rw [happlied]
    exact eq_map_of_fst (hbrought.applied_eq hstored) hunchanged

/-- An update that succeeds had passed the checks. -/
theorem checkUpdate_of_update
    (h : (update defaultScope options table objects).outcome session memo = (.ok report, memo')) :
    checkUpdate objects options.gcTag = .ok () := by
  rw [update, outcome_bind, outcome_ofExcept] at h
  cases hcheck : checkUpdate objects options.gcTag with
  | ok _ => rfl
  | error f => simp [hcheck] at h

/-- Updates converge: running an update that succeeded once more, in the same session or in another
one, leaves every object unchanged, deletes nothing, asks for no change and finds the cluster as it
was, provided that no input goes to the empty namespace. -/
theorem update_converges (sound : memo.server.Sound) (hknows : KnowsKinds memo)
    (hplain : ∀ r ∈ objects, r.Plain)
    (hfaithful : ∀ r ∈ objects, ∀ kind, KindInfo.find memo.server.kinds r.gvk = some kind →
      Snapshot.Faithful ((r.placedIn (targetScope defaultScope kind r)).marked options.gcTag))
    (hplaced : ∀ r ∈ objects, ∀ kind, KindInfo.find memo.server.kinds r.gvk = some kind →
      targetScope defaultScope kind r ≠ some "")
    (hapart : objects.Pairwise fun a b => ¬Resource.SharesTarget memo.server.kinds defaultScope a b)
    (hdry : options.dryRun = false)
    (h : (update defaultScope options table objects).outcome session memo = (.ok report, memo'))
    {again : Memo MemoryCluster} (hagain : again.server = memo'.server) (hknowsAgain : KnowsKinds again) :
    ∃ second final,
      (update defaultScope options table objects).outcome session again = (.ok second, final) ∧
      second.applied = report.applied.map (fun entry => (entry.1, .unchanged)) ∧
      (∀ gc, second.gc = some gc → gc.deleted = []) ∧
      (∀ q ∈ (update defaultScope options table objects).requests session again, q.Unchanging) ∧
      final.server.objects = memo'.server.objects ∧
      final.server.lastVersion = memo'.server.lastVersion := by
  obtain ⟨hrest, hsound, hkinds, happlied⟩ :=
    atRest_of_update sound hknows hplain hfaithful hapart hdry h
  rw [← hkinds, ← hagain] at hrest hplaced hapart happlied
  rw [← hagain] at hsound
  obtain ⟨second, final, count, hreads, hfinal, hsecond, hdeleted⟩ :=
    reads_update_of_atRest hsound hknowsAgain (fun r hr => (hplain r hr).submittable) hplaced hapart hdry
      (checkUpdate_of_update h) hrest
  refine ⟨second, final, hreads.outcome, ?_, hdeleted, hreads.unchanging, ?_, ?_⟩
  · rw [hsecond, ← happlied, List.map_map]
    rfl
  · rw [hfinal, ← hagain]
    rfl
  · rw [hfinal, ← hagain]
    rfl

end Program

end Rest

namespace Program

set_option maxRecDepth 20000 in
/-- An update that patches an object without a snapshot, creates another one and deletes a third, which is
garbage of its tag, has nothing to do in a new session. -/
theorem update_converges_after_patch_and_deletion :
    let configMap (metadata data : Fields) : Fields :=
      [("apiVersion", .string "v1"), ("data", .object data), ("kind", .string "ConfigMap"),
        ("metadata", .object metadata)]
    let stored : Resource :=
      ⟨configMap [("name", .string "a"), ("namespace", .string "default")] [("foreign", .string "1")],
        by decide, by decide, by decide⟩
    let fallen : Resource :=
      ⟨configMap [("annotations", .object [(AnnotationKey.gcTag, .string "t")]), ("name", .string "c"),
        ("namespace", .string "default")] [], by decide, by decide, by decide⟩
    let missing : Resource := ⟨configMap [("name", .string "b")] [], by decide, by decide, by decide⟩
    let present : Resource :=
      ⟨configMap [("name", .string "a")] [("own", .string "2")], by decide, by decide, by decide⟩
    let inputs := [missing, present]
    let kind : KindInfo := ⟨⟨"", "v1", "ConfigMap"⟩, "configmaps", .namespaced, KindInfo.everyVerb⟩
    let cluster : MemoryCluster :=
      ((MemoryCluster.empty MemoryCluster.standardKinds ⟨1, 28⟩).afterCreate kind stored).afterCreate
        kind fallen
    let options : UpdateOptions := ⟨true, some "t", false, .clusterScope, none, false, false⟩
    let id (name : String) : Identity := ⟨⟨"", "v1", "ConfigMap"⟩, some "default", name⟩
    let run := (update "default" options .standard inputs).outcome session { server := cluster }
    run.1.toOption.map (fun report => (report.applied, report.gc.map (·.deleted))) =
        some ([(id "a", .patched), (id "b", .created)], some [id "c"]) ∧
      ∃ second final,
        (update "default" options .standard inputs).outcome session { server := run.2.server } =
          (.ok second, final) ∧
        second.applied = [(id "a", .unchanged), (id "b", .unchanged)] ∧
        (∀ gc, second.gc = some gc → gc.deleted = []) ∧
        final.server.objects = run.2.server.objects ∧
        final.server.lastVersion = run.2.server.lastVersion := by
  intro configMap stored fallen missing present inputs kind cluster options id run
  have hempty : (MemoryCluster.empty MemoryCluster.standardKinds ⟨1, 28⟩).Sound :=
    MemoryCluster.sound_empty (by decide) _
  have hone : ((MemoryCluster.empty MemoryCluster.standardKinds ⟨1, 28⟩).afterCreate kind stored).Sound :=
    hempty.create (by decide) (by decide)
  have hsound : cluster.Sound := hone.create (by decide) (by decide)
  have hplain : ∀ r ∈ inputs, r.Plain :=
    List.forall_mem_cons.mpr ⟨⟨by decide, by decide, by decide, by decide⟩,
      List.forall_mem_singleton.mpr ⟨by decide, by decide, by decide, by decide⟩⟩
  have hserved : ∀ r ∈ inputs, KindInfo.find cluster.kinds r.gvk = some kind := by decide
  have hfaithful : ∀ r ∈ inputs, ∀ kind, KindInfo.find cluster.kinds r.gvk = some kind →
      Snapshot.Faithful ((r.placedIn (targetScope "default" kind r)).marked options.gcTag) := by
    intro r hr other hother
    obtain rfl : kind = other := Option.some.inj ((hserved r hr).symm.trans hother)
    refine Snapshot.faithful_of_lossless Gzip.lossless ?_ ?_ ?_ <;> revert r <;> decide
  have hplaced : ∀ r ∈ inputs, ∀ kind, KindInfo.find cluster.kinds r.gvk = some kind →
      targetScope "default" kind r ≠ some "" := by
    intro r hr other hother
    obtain rfl : kind = other := Option.some.inj ((hserved r hr).symm.trans hother)
    revert r
    decide
  have hapart : inputs.Pairwise fun a b => ¬Resource.SharesTarget cluster.kinds "default" a b := by
    refine List.pairwise_pair.mpr ?_
    rintro ⟨target, hmissing, hpresent⟩
    exact absurd (hmissing.trans hpresent.symm) (by decide)
  have hreport : run.1.toOption.map (fun report => (report.applied, report.gc.map (·.deleted))) =
      some ([(id "a", .patched), (id "b", .created)], some [id "c"]) := by
    have haccepted : checkUpdate inputs options.gcTag = .ok () := by
      rw [checkUpdate, (checkDuplicates_iff _).mpr (by decide)]
      rfl
    have horder : creationOrder .standard (KindInfo.scopes cluster.kinds) inputs = [present, missing] :=
      sortByKey_pair (by decide) (by decide)
    rw [show run = _ from outcome_update "default" haccepted horder]
    decide +kernel
  refine ⟨hreport, ?_⟩
  rcases hrun : run with ⟨f | report, memo'⟩
  · simp [hrun, Except.toOption] at hreport
  · rw [hrun] at hreport
    obtain ⟨happlied, -⟩ := Prod.mk.inj (Option.some.inj hreport)
    obtain ⟨second, final, hsecond, hunchanged, hdeleted, -, hobjects, hversion⟩ :=
      @update_converges _ _ _ _ _ _ _ _ hsound (.inl rfl) hplain hfaithful hplaced hapart rfl hrun
        { server := memo'.server } rfl (.inl rfl)
    exact ⟨second, final, hsecond, by rw [hunchanged, happlied]; rfl, hdeleted, hobjects, hversion⟩

set_option maxRecDepth 20000 in
/-- Nothing converges in the empty namespace: there the object is created where it is not looked
for, and the second run fails. -/
theorem update_fails_again_in_empty_scope :
    ¬∀ (memo memo' : Memo MemoryCluster) (defaultScope : String) (options : UpdateOptions)
      (table : RankTable) (objects : List Resource) (report : UpdateReport),
      memo.server.Sound → KnowsKinds memo → (∀ r ∈ objects, r.Plain) →
      (∀ r ∈ objects, ∀ kind, KindInfo.find memo.server.kinds r.gvk = some kind →
        Snapshot.Faithful ((r.placedIn (targetScope defaultScope kind r)).marked options.gcTag)) →
      (objects.Pairwise fun a b => ¬Resource.SharesTarget memo.server.kinds defaultScope a b) →
      options.dryRun = false →
      (update defaultScope options table objects).outcome session memo = (.ok report, memo') →
      ((update defaultScope options table objects).outcome session memo').1.isOk = true := by
  intro hclaim
  let input : Resource :=
    ⟨[("apiVersion", .string "v1"), ("kind", .string "ConfigMap"),
      ("metadata", .object [("name", .string "a")])], by decide, by decide, by decide⟩
  let memo : Memo MemoryCluster :=
    { server := MemoryCluster.empty MemoryCluster.standardKinds ⟨1, 28⟩ }
  let options : UpdateOptions := ⟨true, none, false, .clusterScope, none, false, false⟩
  have hplain : ∀ r ∈ [input], r.Plain := by
    intro r hr
    obtain rfl := List.mem_singleton.mp hr
    exact ⟨by decide, by decide, by decide, by decide⟩
  have hfaithful : ∀ r ∈ [input], ∀ kind, KindInfo.find memo.server.kinds r.gvk = some kind →
      Snapshot.Faithful ((r.placedIn (targetScope "" kind r)).marked options.gcTag) := by
    intro r hr kind hkind
    obtain rfl := List.mem_singleton.mp hr
    have hserved : KindInfo.find memo.server.kinds input.gvk =
        some ⟨⟨"", "v1", "ConfigMap"⟩, "configmaps", .namespaced, KindInfo.everyVerb⟩ := by decide
    obtain rfl := Option.some.inj (hserved.symm.trans hkind)
    exact Snapshot.faithful_of_lossless Gzip.lossless (by decide) (by decide) (by decide)
  have hfirst : ((update "" options .standard [input]).outcome session memo).1.isOk = true := by
    decide +kernel
  have hsecond : ((update "" options .standard [input]).outcome session
      ((update "" options .standard [input]).outcome session memo).2).1.isOk = false := by
    decide +kernel
  rcases hrun : (update "" options .standard [input]).outcome session memo with ⟨f | report, memo'⟩
  · rw [hrun] at hfirst
    contradiction
  · have hagain := hclaim memo memo' "" options .standard [input] report
      (MemoryCluster.sound_empty (by decide) _) (.inl rfl) hplain hfaithful (by simp) rfl hrun
    rw [hrun, hagain] at hsecond
    contradiction

end Program

end Reconcile
