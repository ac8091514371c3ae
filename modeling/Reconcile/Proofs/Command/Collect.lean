import Reconcile.Proofs.Command.Phases
import Reconcile.Proofs.Command.Search

/-!
# What garbage collection deletes

Every piece of garbage that a search takes down is deleted at the first attempt, and nothing else is:
`Program.update_collects_garbage` says so for whole runs.
-/

namespace Reconcile

open MemoryCluster (keyOf session)

/-- Deleting the object that was listed. -/
theorem MemoryCluster.delete_of_stored {c : MemoryCluster} {kind : KindInfo} {r : Resource}
    (h : c.objects.get? (keyOf kind r) = some r) (options : DeleteOptions) :
    ∃ calls, c.delete kind r.scope? r.name (options.withUid r.uid?) =
      (.ok (), { c with objects := c.objects.erase (keyOf kind r), calls := calls }) := by
  rw [keyOf] at h ⊢
  have hagrees : ¬((options.withUid r.uid?).uid.isSome &&
      r.uid? != (options.withUid r.uid?).uid) = true := by
    simp [DeleteOptions.withUid]
  rw [MemoryCluster.delete, h]
  dsimp only
  rw [if_neg hagrees]
  exact ⟨_, rfl⟩

namespace MemoryCluster

/-- A cluster without some of its objects. -/
def without (doomed : List Resource) (calls : List String) (c : MemoryCluster) : MemoryCluster :=
  { c with objects := c.objects.filter fun entry => entry.2 ∉ doomed, calls := calls }

/-- Where nothing is deleted the cluster is as it was. -/
theorem without_nil (c : MemoryCluster) : c.without [] c.calls = c := by
  have hall : c.objects.filter (fun entry => decide (entry.2 ∉ ([] : List Resource))) = c.objects := by
    simp
  rw [MemoryCluster.without, hall]

/-- Taking objects away one after the other is taking them all away. -/
theorem without_without (first second : List Resource) (before calls : List String) (c : MemoryCluster) :
    (c.without first before).without second calls = c.without (first ++ second) calls := by
  have hboth : (c.objects.filter fun entry => decide (entry.2 ∉ first)).filter
      (fun entry => decide (entry.2 ∉ second)) =
        c.objects.filter fun entry => decide (entry.2 ∉ first ++ second) := by
    rw [List.filter_filter]
    refine List.filter_congr fun entry _ => ?_
    simp [Bool.and_comm]
  simp only [MemoryCluster.without, hboth]

/-- A cluster stays sound without some of its objects. -/
theorem Sound.without {c : MemoryCluster} (sound : c.Sound) (doomed : List Resource)
    (calls : List String) : (c.without doomed calls).Sound := sound.keepOnly _ _

/-- Removing the object under an identity is removing the object. -/
theorem Sound.erase_eq {c : MemoryCluster} (sound : c.Sound) {id : Identity} {r : Resource}
    (h : c.objects.get? id = some r) :
    c.objects.erase id = c.objects.filter fun entry => entry.2 ∉ [r] := by
  rw [Store.erase_eq_filter]
  refine List.filter_congr fun entry hentry => ?_
  have hobject := sound.mem_iff.mp hentry
  have hiff : entry.1 = id ↔ entry.2 = r := by
    constructor
    · intro hid
      rw [hid, h, Option.some.injEq] at hobject
      exact hobject.symm
    · intro hr
      exact sound.id_unique hobject (hr ▸ h)
  simp [hiff]

end MemoryCluster

namespace Program

variable {memo : Memo MemoryCluster}

/-- Deleting one piece of garbage. -/
theorem outcome_collectOne (sound : memo.server.Sound) (hkinds : memo.kinds = some memo.server.kinds)
    {id : Identity} {r : Resource} {kind : KindInfo} (h : memo.server.objects.get? id = some r)
    (hkind : KindInfo.find memo.server.kinds r.gvk = some kind) (options : DeleteOptions)
    (report : CollectReport) :
    ∃ calls, (collectOne options false r report).outcome session memo =
      (.ok { report with deleted := report.deleted ++ [r.identity] },
        { memo with server := memo.server.without [r] calls }) := by
  have hid : id = keyOf kind r := (sound.fits id r h).place kind hkind
  subst hid
  obtain ⟨calls, hdelete⟩ := MemoryCluster.delete_of_stored h options
  have hanswer : session.answer (.delete kind r.scope? r.name (options.withUid r.uid?)) memo =
      (.ok (), { memo with server := memo.server.without [r] calls }) := by
    rw [MemoryCluster.without, ← sound.erase_eq h]
    show ((memo.server.delete kind r.scope? r.name (options.withUid r.uid?)).1,
      { memo with server := (memo.server.delete kind r.scope? r.name (options.withUid r.uid?)).2 }) = _
    rw [hdelete]
  refine ⟨calls, ?_⟩
  rw [collectOne, outcome_bind, outcome_describe _ hkinds]
  dsimp only
  rw [outcome_bind, outcome_tell]
  dsimp only
  rw [if_neg Bool.false_ne_true, outcome_bind, outcome_resolve _ hkinds hkind]
  dsimp only
  rw [outcome_bind, outcome_request, hanswer]
  rfl

/-- Deleting garbage piece by piece deletes all of it. -/
theorem outcome_collectAll (sound : memo.server.Sound) (hkinds : memo.kinds = some memo.server.kinds)
    {doomed : List Resource} (hnodup : (doomed.map Resource.uid?).Nodup)
    (hdoomed : ∀ r ∈ doomed, ∃ id kind, memo.server.objects.get? id = some r ∧
      KindInfo.find memo.server.kinds r.gvk = some kind)
    (options : DeleteOptions) (report : CollectReport) :
    ∃ calls, (collectAll options false doomed report).outcome session memo =
      (.ok { report with deleted := report.deleted ++ doomed.map Resource.identity },
        { memo with server := memo.server.without doomed calls }) := by
  induction doomed generalizing memo report with
  | nil =>
    refine ⟨memo.server.calls, ?_⟩
    rw [collectAll, MemoryCluster.without_nil, List.map_nil, List.append_nil]
    rfl
  | cons r rest ih =>
    obtain ⟨id, kind, hr, hkind⟩ := hdoomed r List.mem_cons_self
    obtain ⟨calls, hone⟩ := outcome_collectOne sound hkinds hr hkind options report
    rw [List.map_cons, List.nodup_cons] at hnodup
    have hrest : ∀ x ∈ rest, ∃ id kind,
        (memo.server.without [r] calls).objects.get? id = some x ∧
          KindInfo.find (memo.server.without [r] calls).kinds x.gvk = some kind := by
      intro x hx
      obtain ⟨xid, xkind, hxobject, hxkind⟩ := hdoomed x (List.mem_cons_of_mem _ hx)
      refine ⟨xid, xkind, (Store.get?_filter sound.rising _).mpr ⟨hxobject, ?_⟩, hxkind⟩
      have hne : x ≠ r := by
        rintro rfl
        exact hnodup.1 (List.mem_map_of_mem hx)
      simpa using hne
    obtain ⟨after, hall⟩ := @ih { memo with server := memo.server.without [r] calls }
      (sound.without [r] calls) hkinds hnodup.2 hrest
      { report with deleted := report.deleted ++ [r.identity] }
    refine ⟨after, ?_⟩
    rw [collectAll, outcome_bind, hone]
    dsimp only
    rw [hall, MemoryCluster.without_without]
    simp

/-- What garbage collection comes to: the garbage is gone, all of it was deleted at the first attempt,
and what else there is to a cluster stays, but for the counts of what it was asked. -/
structure Collected (options : CollectOptions) (ids : List Identity) (c c' : MemoryCluster)
    (report : CollectReport) : Prop where
  frame : c' = { c with objects := c'.objects, calls := c'.calls, discoveries := c'.discoveries }
  objects : c'.objects = c.objects.filter fun entry => !c.isGarbage options ids entry
  deleted : report.deleted.Perm ((c.objects.filter (c.isGarbage options ids)).map (·.2.identity))
  raced : report.raced = 0

namespace Collected

variable {options : CollectOptions} {ids : List Identity} {c c' : MemoryCluster} {report : CollectReport}

/-- How often a cluster was asked about itself does not count. -/
theorem of_asked {count : Nat} (h : Collected options ids (c.asked count) c' report) :
    Collected options ids c c' report := ⟨h.frame, h.objects, h.deleted, h.raced⟩

/-- Collecting leaves the kinds as they are. -/
theorem kinds_eq (h : Collected options ids c c' report) : c'.kinds = c.kinds :=
  congrArg (·.kinds) h.frame

/-- It leaves what is forbidden as it is. -/
theorem forbidden_eq (h : Collected options ids c c' report) : c'.forbidden = c.forbidden :=
  congrArg (·.forbidden) h.frame

/-- The cluster stays sound. -/
theorem sound (h : Collected options ids c c' report) (sound : c.Sound) : c'.Sound := by
  rw [h.frame, h.objects]
  exact (sound.keepOnly _ _).asked _

/-- What was applied stays, and so does what carries another tag or none. -/
theorem keeps (h : Collected options ids c c' report) {entry : Identity × Resource}
    (hentry : entry ∈ c.objects) (hkept : entry.1 ∈ ids ∨ entry.2.gcTag? ≠ some options.tag) :
    entry ∈ c'.objects := by
  rw [h.objects]
  refine List.mem_filter.mpr ⟨hentry, ?_⟩
  rw [Bool.not_eq_true', MemoryCluster.isGarbage, Option.any_eq_false]
  intro kind _
  rcases hkept with happlied | htag
  · simp [happlied]
  · simp [Resource.isEligible, htag]

/-- What was applied is found as before. -/
theorem get?_of_mem (h : Collected options ids c c' report) (sound : c.Sound) {id : Identity}
    (hid : id ∈ ids) : c'.objects.get? id = c.objects.get? id := by
  have hiff (object : Resource) :
      c'.objects.get? id = some object ↔ c.objects.get? id = some object := by
    rw [← sound.mem_iff, ← (h.sound sound).mem_iff]
    constructor
    · intro hmem
      rw [h.objects] at hmem
      exact (List.mem_filter.mp hmem).1
    · exact fun hmem => h.keeps hmem (.inl hid)
  exact Option.ext hiff

/-- Nothing is garbage any more: where less is left, less is reached. -/
theorem isGarbage_eq_false (h : Collected options ids c c' report) {entry : Identity × Resource}
    (hentry : entry ∈ c'.objects) : c'.isGarbage options ids entry = false := by
  have hfewer : c'.objects.Sublist c.objects := by
    rw [h.objects]
    exact List.filter_sublist
  rw [h.objects, List.mem_filter, Bool.not_eq_true', MemoryCluster.isGarbage, Option.any_eq_false] at hentry
  rw [MemoryCluster.isGarbage, h.kinds_eq, Option.any_eq_false]
  intro kind hkind
  have hkept := hentry.2 kind hkind
  simp only [Bool.and_eq_false_iff] at hkept ⊢
  refine hkept.imp_left (.imp_left (.imp_right fun hunreached => ?_))
  rw [← Bool.not_eq_true] at hunreached ⊢
  exact fun hreached => hunreached (MemoryCluster.isReached_of_sublist hfewer h.forbidden_eq hreached)

end Collected

/-- Taking away what a search took down, in any order, takes away the garbage. -/
theorem collected_of_searched {c : MemoryCluster} (sound : c.Sound) {options : CollectOptions}
    {seen : Seen} {ids : List Identity} (hcovers : seen.Covers c ids) {g : Gathering}
    (hg : g.Searched options.tag seen ((listings c.kinds (c.searched options)).flatMap c.listed))
    {doomed : List Resource} (hperm : doomed.Perm g.doomed) (calls : List String)
    {report : CollectReport} (hdeleted : report.deleted = doomed.map Resource.identity)
    (hraced : report.raced = 0) : Collected options ids c (c.without doomed calls) report where
  frame := rfl
  objects := by
    refine List.filter_congr fun entry hentry => ?_
    have hiff : entry.2 ∈ doomed ↔ c.isGarbage options ids entry = true :=
      hperm.mem_iff.trans (sound.mem_doomed_iff hcovers hg (sound.mem_iff.mp hentry))
    simp only [hiff, decide_not, Bool.decide_eq_true]
  deleted := by
    have hgarbage : doomed.Perm ((c.objects.filter (c.isGarbage options ids)).map (·.2)) := by
      refine hperm.trans ((List.perm_ext_iff_of_nodup ?_ ?_).mpr fun r => ?_)
      · exact List.Pairwise.of_map Resource.uid? (fun a b h heq => h (congrArg _ heq)) hg.nodup
      · exact sound.nodup_objects.sublist (List.filter_sublist.map _)
      · constructor
        · intro hr
          obtain ⟨listing, -, hlisted⟩ := List.mem_flatMap.mp ((hg.doomed r).mp hr).1
          obtain ⟨-, id, hentry, -⟩ := MemoryCluster.mem_listed.mp hlisted
          have hgarbage := (sound.mem_doomed_iff hcovers hg (sound.mem_iff.mp hentry)).mp hr
          exact List.mem_map.mpr ⟨(id, r), List.mem_filter.mpr ⟨hentry, hgarbage⟩, rfl⟩
        · intro hr
          obtain ⟨entry, hentry, rfl⟩ := List.mem_map.mp hr
          obtain ⟨hmem, hgarbage⟩ := List.mem_filter.mp hentry
          exact (sound.mem_doomed_iff hcovers hg (sound.mem_iff.mp hmem)).mpr hgarbage
    rw [hdeleted]
    simpa [List.map_map, Function.comp_def] using hgarbage.map Resource.identity
  raced := hraced

/-- Once the version and the kinds are known, a search goes on to its listings. -/
theorem outcome_search_eq (hkinds : memo.kinds = some memo.server.kinds) (options : CollectOptions)
    (seen : Seen) :
    ∃ version asked,
      (∃ count known, asked = { memo with server := memo.server.asked count, version := known }) ∧
      (search options seen).outcome session memo =
        (do
          let scopes ← scopesToList options asked.server.kinds
          let gathering ← gather options.tag seen (listings asked.server.kinds scopes) .empty
          return ({ version, kinds := asked.server.kinds, gathering } : Found)).outcome session asked := by
  obtain ⟨version, known, count, hversion⟩ := outcome_demand_version memo
  refine ⟨version, { memo with server := memo.server.asked count, version := known },
    ⟨count, known, rfl⟩, ?_⟩
  have hdemand : (demand .kinds).outcome session
      { memo with server := memo.server.asked count, version := known } =
        (.ok memo.server.kinds, { memo with server := memo.server.asked count, version := known }) :=
    outcome_demand_kinds _ hkinds
  rw [search, outcome_bind, hversion]
  dsimp only
  rw [outcome_bind, hdemand]
  rfl

/-- A search goes through the listings of its cluster. -/
theorem outcome_search_gathered (hkinds : memo.kinds = some memo.server.kinds)
    {options : CollectOptions} (hsearch : memo.server.CanSearch options) (seen : Seen) :
    ∃ found count version,
      (search options seen).outcome session memo =
        (.ok found, { memo with server := memo.server.asked count, version := version }) ∧
      found.kinds = memo.server.kinds ∧
      found.gathering = (listings memo.server.kinds (memo.server.searched options)).foldl
        (gatheredFrom memo.server options.tag seen) .empty := by
  obtain ⟨version, asked, ⟨count, known, hasked⟩, houtcome⟩ := outcome_search_eq hkinds options seen
  have hserver : asked.server = memo.server.asked count := by rw [hasked]
  have hsearchable : asked.server.CanSearch options :=
    hsearch.congr (congrArg (·.kinds) hserver) (congrArg (·.forbidden) hserver)
  rw [outcome_bind, outcome_scopesToList hsearchable] at houtcome
  dsimp only at houtcome
  rw [outcome_bind, outcome_gather, hserver] at houtcome
  exact ⟨_, count, known, hasked ▸ houtcome, rfl, rfl⟩

/-- A search in a sound cluster looks at all that its listings reach. -/
theorem outcome_search (sound : memo.server.Sound) (hkinds : memo.kinds = some memo.server.kinds)
    {options : CollectOptions} (hsearch : memo.server.CanSearch options) (seen : Seen) :
    ∃ found count version,
      (search options seen).outcome session memo =
        (.ok found, { memo with server := memo.server.asked count, version := version }) ∧
      found.kinds = memo.server.kinds ∧
      found.gathering.Searched options.tag seen
        ((listings memo.server.kinds (memo.server.searched options)).flatMap memo.server.listed) := by
  obtain ⟨found, count, version, houtcome, hkinds', hgathered⟩ :=
    outcome_search_gathered hkinds hsearch seen
  refine ⟨found, count, version, houtcome, hkinds', ?_⟩
  rw [hgathered]
  exact searched_gathered sound (Gathering.Searched.empty options.tag seen) (by simp) _

/-- What a search takes down is stored, under a kind that is served. -/
theorem stored_of_searched {c : MemoryCluster} (sound : c.Sound) {options : CollectOptions} {seen : Seen}
    {g : Gathering}
    (hg : g.Searched options.tag seen ((listings c.kinds (c.searched options)).flatMap c.listed))
    {r : Resource} (hr : r ∈ g.doomed) :
    ∃ id kind, c.objects.get? id = some r ∧ KindInfo.find c.kinds r.gvk = some kind := by
  obtain ⟨listing, hlisting, hlisted⟩ := List.mem_flatMap.mp ((hg.doomed r).mp hr).1
  obtain ⟨-, id, hentry, hgvk, -⟩ := MemoryCluster.mem_listed.mp hlisted
  have hobject := sound.mem_iff.mp hentry
  have hserved := sound.find_of_mem (mem_listings.mp hlisting).1
  exact ⟨id, listing.1, hobject, ((sound.fits id r hobject).gvk.trans hgvk) ▸ hserved⟩

/-- A collection in a sound cluster deletes the garbage. -/
theorem outcome_collect (sound : memo.server.Sound) (hkinds : memo.kinds = some memo.server.kinds)
    {options : CollectOptions} (hdry : options.dryRun = false) (hsearch : memo.server.CanSearch options)
    {seen : Seen} {ids : List Identity} (hcovers : seen.Covers memo.server ids) (table : RankTable) :
    ∃ report doomed calls count version,
      (collect options seen table).outcome session memo =
        (.ok report,
          { memo with server := (memo.server.asked count).without doomed calls, version := version }) ∧
      Collected options ids memo.server ((memo.server.asked count).without doomed calls) report := by
  obtain ⟨found, count, version, houtcome, hfound, hsearched⟩ := outcome_search sound hkinds hsearch seen
  have hperm := deletionOrder_perm table (KindInfo.scopes found.kinds) found.gathering.doomed
  have hasked : (memo.server.asked count).Sound := sound.asked count
  obtain ⟨calls, hall⟩ := @outcome_collectAll
    { memo with server := memo.server.asked count, version := version } hasked hkinds _
    ((hperm.map Resource.uid?).nodup_iff.mpr hsearched.nodup)
    (fun r hr => stored_of_searched sound hsearched (hperm.mem_iff.mp hr)) (.forVersion found.version)
    { considered := found.gathering.considered, deleted := [], wouldDelete := [], raced := 0
      forbiddenLists := found.gathering.forbiddenLists }
  have hcollect : (collect options seen table).outcome session memo =
      (sweep options table found).outcome session
        { memo with server := memo.server.asked count, version := version } := by
    rw [collect_eq_phases, outcome_bind, houtcome]
  rw [sweep, hdry, hall] at hcollect
  exact ⟨_, _, calls, count, version, hcollect, .of_asked
    (collected_of_searched hasked ⟨hcovers.unsaved, hcovers.uids⟩ hsearched hperm calls
      (List.nil_append _) rfl)⟩

/-- A search that succeeds could tell where to search. -/
theorem canSearch_of_search (hkinds : memo.kinds = some memo.server.kinds) {options : CollectOptions}
    {seen : Seen} {found : Found} {memo' : Memo MemoryCluster}
    (h : (search options seen).outcome session memo = (.ok found, memo')) :
    memo.server.CanSearch options := by
  obtain ⟨version, asked, ⟨count, known, hasked⟩, hsearch⟩ := outcome_search_eq hkinds options seen
  have hserver : memo.server.asked count = asked.server := by rw [hasked]
  rw [hsearch, outcome_bind] at h
  rcases hscopes : (scopesToList options asked.server.kinds).outcome session asked with ⟨f | scopes, after⟩
  · rw [hscopes] at h
    simp at h
  · exact (canSearch_of_scopesToList hscopes).congr (congrArg (·.kinds) hserver)
      (congrArg (·.forbidden) hserver)

/-- So could a collection that succeeds. -/
theorem canSearch_of_collect (hkinds : memo.kinds = some memo.server.kinds) {options : CollectOptions}
    {seen : Seen} {table : RankTable} {report : CollectReport} {memo' : Memo MemoryCluster}
    (h : (collect options seen table).outcome session memo = (.ok report, memo')) :
    memo.server.CanSearch options := by
  rw [collect_eq_phases, outcome_bind] at h
  rcases hsearch : (search options seen).outcome session memo with ⟨f | found, after⟩
  · simp [hsearch] at h
  · exact canSearch_of_search hkinds hsearch

/-- The first phase of an update that is accepted asks for the kinds and brings the inputs in creation
order. -/
theorem outcome_applyPhase_of_accepted [Compression] (hknows : KnowsKinds memo) (defaultScope : String)
    (table : RankTable) (objects : List Resource) :
    ∃ count, ∀ options : UpdateOptions, checkUpdate objects options.gcTag = .ok () →
      (applyPhase defaultScope options table objects).outcome session memo =
        (applyAll defaultScope options (creationOrder table (KindInfo.scopes memo.server.kinds) objects)
          .empty).outcome session
            { memo with server := memo.server.asked count, kinds := some memo.server.kinds } := by
  obtain ⟨count, hdemand⟩ := outcome_demand_kinds_of_knows hknows
  refine ⟨count, fun options hcheck => ?_⟩
  rw [applyPhase, outcome_bind, outcome_ofExcept, hcheck]
  dsimp only
  rw [outcome_bind, hdemand]
  rfl

/-- So it does whenever it succeeds. -/
theorem applyAll_of_applyPhase [Compression] (hknows : KnowsKinds memo) {defaultScope : String}
    {options : UpdateOptions} {table : RankTable} {objects : List Resource} {report : UpdateReport}
    {memo' : Memo MemoryCluster}
    (h : (applyPhase defaultScope options table objects).outcome session memo = (.ok report, memo')) :
    ∃ count, (applyAll defaultScope options
        (creationOrder table (KindInfo.scopes memo.server.kinds) objects) .empty).outcome session
          { memo with server := memo.server.asked count, kinds := some memo.server.kinds } =
        (.ok report, memo') := by
  obtain ⟨count, haccepted⟩ := outcome_applyPhase_of_accepted hknows defaultScope table objects
  cases hcheck : checkUpdate objects options.gcTag with
  | error f => simp [applyPhase, outcome_bind, outcome_ofExcept, hcheck] at h
  | ok _ => exact ⟨count, (haccepted options hcheck).symm.trans h⟩

/-- What the first phase of an update comes to. -/
theorem broughtAll_of_applyPhase [Compression] (keyed : memo.server.Keyed) (hknows : KnowsKinds memo)
    {defaultScope : String} {options : UpdateOptions} {table : RankTable} {objects : List Resource}
    (hinputs : ∀ r ∈ objects, r.Submittable) (hdry : options.dryRun = false)
    {report : UpdateReport} {memo' : Memo MemoryCluster}
    (h : (applyPhase defaultScope options table objects).outcome session memo = (.ok report, memo')) :
    ∃ count c', BroughtAll defaultScope options (memo.server.asked count) .empty
        (creationOrder table (KindInfo.scopes memo.server.kinds) objects) c' report ∧
      memo' = { memo with server := c', kinds := some memo.server.kinds } := by
  obtain ⟨count, happly⟩ := applyAll_of_applyPhase hknows h
  have hordered : ∀ r ∈ creationOrder table (KindInfo.scopes memo.server.kinds) objects,
      r.Submittable := fun r hr => hinputs r ((creationOrder_perm table _ objects).mem_iff.mp hr)
  obtain ⟨c', hall, hmemo⟩ := broughtAll_of_applyAll
    (show (memo.server.asked count).Keyed from keyed.congr rfl rfl) rfl hordered hdry happly
  exact ⟨count, c', hall, hmemo⟩

/-- An update in a new session brings its inputs in creation order and then collects. -/
theorem outcome_update [Compression] {c : MemoryCluster} {options : UpdateOptions} {table : RankTable}
    {objects ordered : List Resource} (defaultScope : String)
    (haccepted : checkUpdate objects options.gcTag = .ok ())
    (horder : creationOrder table (KindInfo.scopes c.kinds) objects = ordered) :
    (update defaultScope options table objects).outcome session { server := c } =
      (applyAll defaultScope options ordered .empty >>= collectPhase options table).outcome session
        { server := c.asked (c.discoveries + 1), kinds := some c.kinds } := by
  rw [update_eq_phases, applyPhase, haccepted, ← horder]
  rfl

/-- What is to be collected after an update with a tag. -/
def collectOptions (options : UpdateOptions) (tag : String) : CollectOptions :=
  { tag, listMode := options.listMode, scopeSelector := options.scopeSelector
    dryRun := options.dryRun }

/-- With a tag the second phase of an update collects, unless that is switched off. -/
theorem collectPhase_of_tag {options : UpdateOptions} {tag : String} (htag : options.gcTag = some tag)
    (hskip : options.skipGc = false) (table : RankTable) (report : UpdateReport) :
    collectPhase options table report = do
      let collected ← collect (collectOptions options tag) report.seen table
      return { report with gc := some collected } := by
  simp only [collectPhase, htag, hskip, collectOptions]

/-- Otherwise it does nothing. -/
theorem collectPhase_of_none {options : UpdateOptions}
    (h : ¬∃ tag, options.gcTag = some tag ∧ options.skipGc = false) (table : RankTable)
    (report : UpdateReport) : collectPhase options table report = pure report := by
  rw [collectPhase]
  split
  next tag htag hskip => exact absurd ⟨tag, htag, hskip⟩ h
  next => rfl

/-- What the second phase of an update comes to when it collects at all. -/
theorem collected_of_collectPhase (sound : memo.server.Sound)
    (hkinds : memo.kinds = some memo.server.kinds) {options : UpdateOptions} {tag : String}
    (hdry : options.dryRun = false) (htag : options.gcTag = some tag) (hskip : options.skipGc = false)
    {table : RankTable} {report report' : UpdateReport} {ids : List Identity}
    (hcovers : report.seen.Covers memo.server ids) {memo' : Memo MemoryCluster}
    (h : (collectPhase options table report).outcome session memo = (.ok report', memo')) :
    ∃ gc, report' = { report with gc := some gc } ∧
      memo.server.CanSearch (collectOptions options tag) ∧
      Collected (collectOptions options tag) ids memo.server memo'.server gc := by
  rw [collectPhase_of_tag htag hskip, outcome_bind] at h
  rcases hcollect : (collect (collectOptions options tag) report.seen table).outcome session memo with
    ⟨f | gc, final⟩
  · simp [hcollect] at h
  · have hsearch := canSearch_of_collect hkinds hcollect
    obtain ⟨gc', doomed, calls, count, version, houtcome, hcollected⟩ :=
      outcome_collect sound hkinds (show (collectOptions options tag).dryRun = false from hdry) hsearch
        hcovers table
    rw [hcollect, Prod.mk.injEq, Except.ok.injEq] at houtcome
    obtain ⟨rfl, rfl⟩ := houtcome
    simp only [hcollect, outcome_pure, Prod.mk.injEq, Except.ok.injEq] at h
    obtain ⟨rfl, rfl⟩ := h
    exact ⟨gc, rfl, hsearch, hcollected⟩

/-- An update that succeeds went through both of its phases. -/
theorem phases_of_update [Compression] (keyed : memo.server.Keyed) (hknows : KnowsKinds memo)
    {defaultScope : String} {options : UpdateOptions} {table : RankTable} {objects : List Resource}
    (hinputs : ∀ r ∈ objects, r.Submittable) (hdry : options.dryRun = false)
    {report : UpdateReport} {memo' : Memo MemoryCluster}
    (h : (update defaultScope options table objects).outcome session memo = (.ok report, memo')) :
    ∃ count c applied,
      BroughtAll defaultScope options (memo.server.asked count) .empty
        (creationOrder table (KindInfo.scopes memo.server.kinds) objects) c applied ∧
      (applyPhase defaultScope options table objects).outcome session memo =
        (.ok applied, { memo with server := c, kinds := some c.kinds }) ∧
      (collectPhase options table applied).outcome session
        { memo with server := c, kinds := some c.kinds } = (.ok report, memo') := by
  rw [update_eq_phases, outcome_bind] at h
  rcases happly : (applyPhase defaultScope options table objects).outcome session memo with
    ⟨f | applied, between⟩
  · simp [happly] at h
  · obtain ⟨count, c, hall, rfl⟩ := broughtAll_of_applyPhase keyed hknows hinputs hdry happly
    rw [happly] at h
    have hkinds : memo.server.kinds = c.kinds := hall.kinds_eq.symm
    rw [hkinds] at h
    exact ⟨count, c, applied, hall, by rw [hkinds], h⟩

/-- The garbage collection of an update deletes exactly the garbage. -/
theorem update_collects_garbage [Compression] (sound : memo.server.Sound) (hknows : KnowsKinds memo)
    {defaultScope tag : String} {options : UpdateOptions} {table : RankTable} {objects : List Resource}
    (hinputs : ∀ r ∈ objects, r.Submittable) (hdry : options.dryRun = false)
    (htag : options.gcTag = some tag) (hskip : options.skipGc = false)
    {report : UpdateReport} {memo' : Memo MemoryCluster}
    (h : (update defaultScope options table objects).outcome session memo = (.ok report, memo')) :
    let after := ((applyPhase defaultScope options table objects).outcome session memo).2.server
    let applied := objects.filterMap (Resource.storedAt? after.kinds defaultScope)
    ∃ gc, report.gc = some gc ∧
      Collected (collectOptions options tag) applied after memo'.server gc ∧
      ∀ entry ∈ after.objects, entry.1 ∈ applied ∨ entry.2.gcTag? ≠ some tag →
        entry ∈ memo'.server.objects := by
  intro after applied
  obtain ⟨count, c, applyReport, hall, happly, hcollect⟩ := phases_of_update sound.keyed hknows hinputs hdry h
  have hafter : after = c := congrArg (fun run => run.2.server) happly
  have hcovers : applyReport.seen.Covers c applied := by
    refine (hall.covers (sound.asked count) (Seen.Covers.empty _)).congr fun id => ?_
    have hordered := creationOrder_perm table (KindInfo.scopes memo.server.kinds) objects
    show id ∈ [] ++ _ ↔ id ∈ objects.filterMap (Resource.storedAt? after.kinds defaultScope)
    rw [List.nil_append, hafter, hall.kinds_eq]
    exact (hordered.filterMap _).mem_iff
  obtain ⟨gc, rfl, -, hcollected⟩ :=
    collected_of_collectPhase (hall.sound (sound.asked count)) rfl hdry htag hskip hcovers hcollect
  rw [hafter]
  exact ⟨gc, rfl, hcollected, fun entry hentry hkept => hcollected.keeps hentry hkept⟩

/-- Of two objects that no input names, the one with the tag of the run is deleted. -/
theorem update_collects_garbage_of_one_tag :
    let configMap (metadata : Fields) : Fields :=
      [("apiVersion", .string "v1"), ("kind", .string "ConfigMap"), ("metadata", .object metadata)]
    let tagged (tag : String) : Json := .object [(AnnotationKey.gcTag, .string tag)]
    let fallen : Resource :=
      ⟨configMap [("annotations", tagged "t"), ("name", .string "a"), ("namespace", .string "default")],
        by decide, by decide, by decide⟩
    let foreign : Resource :=
      ⟨configMap [("annotations", tagged "u"), ("name", .string "b"), ("namespace", .string "default")],
        by decide, by decide, by decide⟩
    let input : Resource := ⟨configMap [("name", .string "c")], by decide, by decide, by decide⟩
    let kind : KindInfo := ⟨⟨"", "v1", "ConfigMap"⟩, "configmaps", .namespaced, KindInfo.everyVerb⟩
    let cluster : MemoryCluster :=
      ((MemoryCluster.empty MemoryCluster.standardKinds ⟨1, 28⟩).afterCreate kind fallen).afterCreate
        kind foreign
    let options : UpdateOptions := ⟨true, some "t", false, .clusterScope, none, false, false⟩
    let run := (update "default" options .standard [input]).outcome session { server := cluster }
    ∃ report gc, run.1 = .ok report ∧ report.gc = some gc ∧ gc.deleted = [fallen.identity] := by
  intro configMap tagged fallen foreign input kind cluster options run
  have hempty : (MemoryCluster.empty MemoryCluster.standardKinds ⟨1, 28⟩).Sound :=
    MemoryCluster.sound_empty (by decide) _
  have hone : ((MemoryCluster.empty MemoryCluster.standardKinds ⟨1, 28⟩).afterCreate kind fallen).Sound :=
    hempty.create (by decide) (by decide)
  have hsound : cluster.Sound := hone.create (by decide) (by decide)
  have hinput : ∀ r ∈ [input], r.Submittable := by
    intro r hr
    obtain rfl := List.mem_singleton.mp hr
    exact ⟨by decide, by decide⟩
  have hok : run.1.isOk = true := by decide +kernel
  let after : MemoryCluster :=
    ((applyPhase "default" options .standard [input]).outcome session { server := cluster }).2.server
  have hgarbage : (after.objects.filter (after.isGarbage (collectOptions options "t")
      ([input].filterMap (Resource.storedAt? after.kinds "default")))).map (·.2.identity) =
        [fallen.identity] := by decide +kernel
  rcases hrun : run with ⟨f | report, memo'⟩
  · rw [hrun] at hok
    contradiction
  · obtain ⟨gc, hgc, hcollected, -⟩ := update_collects_garbage hsound (.inl rfl) hinput rfl rfl rfl hrun
    have hdeleted : gc.deleted.Perm [fallen.identity] := hcollected.deleted.trans (.of_eq hgarbage)
    exact ⟨report, gc, rfl, hgc, List.perm_singleton.mp hdeleted⟩

end Program

end Reconcile
