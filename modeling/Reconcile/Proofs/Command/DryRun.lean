import Reconcile.Proofs.Command.Doomed
import Reconcile.Proofs.Command.Converge

/-!
# Dry runs

A dry run asks for no change, so it leaves the cluster as it is, and it foretells the real run. The
two look at different clusters: the real one meets what it created and patched itself and knows these
objects by their uids, the dry one meets the old objects throughout and knows what it would create by
identity. `Foreseen` is what ties the two together while objects are brought onto the cluster, and
`Program.foreseen_applyAll` carries it through a whole run.
-/

namespace Reconcile

open MemoryCluster (keyOf session)

namespace Resource

/-- An object names a namespace only if objects of its kind live in one. -/
def SuitsScope (kinds : List KindInfo) (r : Resource) : Prop :=
  ∀ kind, KindInfo.find kinds r.gvk = some kind → kind.scope = .cluster → r.scope? = none

/-- Whether an object names a namespace where it should can be decided. -/
instance (kinds : List KindInfo) (r : Resource) : Decidable (r.SuitsScope kinds) :=
  decidable_of_iff
    ((KindInfo.find kinds r.gvk).all (fun kind => kind.scope = .cluster → r.scope? = none) = true)
    (by simp only [SuitsScope, Option.all_eq_true, decide_eq_true_eq])

variable (c : MemoryCluster) (kind : KindInfo) (object : Resource)

/-- A created object keeps its identity. -/
theorem identity_createdFor : (c.createdFor kind object).identity = object.identity := by
  have hscope : (c.createdFor kind object).scope? = object.scope? := by
    rw [MemoryCluster.createdFor, scope?_stampedWith, keyOf, MemoryCluster.key]
    cases kind.isNamespaced with
    | true => exact scope?_inScope_self object
    | false => rfl
  rw [identity, identity, hscope]
  simp [MemoryCluster.createdFor]

variable {c kind object}

/-- A patched object keeps its identity. -/
theorem identity_patched (hwf : object.toJson.WellFormed) {live : Resource}
    (hkind : KindInfo.find c.kinds object.gvk = some kind)
    (hfits : MemoryCluster.Fits c.kinds (keyOf kind object) live)
    (hplaced : kind.isNamespaced = true → ∃ ns, object.scope? = some ns)
    (hobject : object.SuitsScope c.kinds) (hlive : live.SuitsScope c.kinds) (last : Fields)
    (uid : String) (version : UInt64) :
    ((patched hwf last live).stampedWith uid version).identity = live.identity := by
  have hgvk : live.gvk = object.gvk := by
    rw [hfits.gvk, keyOf, MemoryCluster.key, KindInfo.gvk_of_find hkind]
  have hkey := hfits.place kind (hgvk ▸ hkind)
  have hname : object.name = live.name := congrArg Identity.name hkey
  have hscope : (patched hwf last live).scope? = live.scope? := by
    cases hlives : kind.scope with
    | cluster =>
      have hnone := hlive kind (hgvk ▸ hkind) hlives
      rw [hnone]
      exact metaText?_patched_eq_none hwf last live (hobject kind hkind hlives) hnone
    | namespaced =>
      have hnamespaced : kind.isNamespaced = true := by rw [KindInfo.isNamespaced, hlives]; rfl
      obtain ⟨ns, hns⟩ := hplaced hnamespaced
      have hsame : object.scope? = live.scope? := by
        simpa [keyOf, MemoryCluster.key, hnamespaced] using congrArg Identity.scope hkey
      rw [← hsame, hns]
      exact metaText?_patched hwf last live hns
  rw [identity, identity, scope?_stampedWith, hscope]
  simp [hgvk, hname]

end Resource

namespace Seen.Marks

variable {seen : Seen} {c : MemoryCluster} {ids : List Identity}

/-- Before anything was brought nothing is marked. -/
theorem empty (c : MemoryCluster) : Seen.empty.Marks c [] := by
  intro id object kind _ _
  cases object.uid? <;> simp [Seen.contains, Seen.empty]

/-- Seeing a stored object marks its identity. -/
theorem insert_stored (h : seen.Marks c ids) (sound : c.Sound) {id : Identity} {live : Resource}
    (hlive : c.objects.get? id = some live) : (seen.insert live).Marks c (ids ++ [id]) := by
  intro other object kind hobject hkind
  obtain ⟨uid, huid⟩ := (sound.fits id live hlive).saved
  rw [contains_insert_of_saved huid, h other object kind hobject hkind, List.mem_append,
    List.mem_singleton]
  refine or_congr_right ⟨fun hsame => ?_, ?_⟩
  · exact sound.distinct other id object live hobject hlive (hsame.trans huid.symm)
  · rintro rfl
    rw [hobject, Option.some.injEq] at hlive
    exact hlive ▸ huid

/-- Seeing an object that is to be created marks nothing that is stored. -/
theorem insert_missing (h : seen.Marks c ids) (sound : c.Sound) {kind : KindInfo} {object : Resource}
    (huid : object.uid? = none) (hkind : KindInfo.find c.kinds object.gvk = some kind)
    (hmissing : c.objects.get? (keyOf kind object) = none) :
    (seen.insert object).Marks c (ids ++ [keyOf kind object]) := by
  intro other stored served hstored hserved
  have hother : other ≠ keyOf kind object := by
    rintro rfl
    simp [hmissing] at hstored
  -- an object with this identity would be stored just where nothing is
  have hidentity : stored.identity ≠ object.identity := by
    intro hsame
    obtain ⟨hgvk, hscope, hname⟩ := Identity.mk.inj hsame
    obtain rfl : served = kind := Option.some.inj (hserved.symm.trans (hgvk ▸ hkind))
    have hplace := (sound.fits other stored hstored).place served hserved
    rw [keyOf, hscope, hname] at hplace
    exact hother hplace
  rw [contains_insert_of_unsaved huid, h other stored served hstored hserved, List.mem_append,
    List.mem_singleton]
  simp [hother, hidentity]

end Seen.Marks

/-- A run marks the objects whose uids it noted. -/
theorem Seen.Covers.marks {seen : Seen} {c : MemoryCluster} {ids : List Identity}
    (h : seen.Covers c ids) (sound : c.Sound) : seen.Marks c ids := by
  intro id object kind hobject _
  rw [h.contains_eq sound hobject, decide_eq_true_eq]

namespace Program

section Unchanging

variable {defaultScope : String} {options : UpdateOptions} (hdry : options.dryRun = true)

include hdry

/-- A dry run asks for no change where an object is missing. -/
theorem asks_createMissing_of_dry (kind : KindInfo) (object : Resource) (description : String) :
    (createMissing options kind object description).Asks Request.Unchanging := by
  rw [createMissing, hdry]
  split
  · trivial
  · exact asks_bind (asks_tell _) fun _ => asks_pure _

omit hdry in
/-- It asks for none where objects are doomed. -/
theorem asks_collectAll_of_dry (options : DeleteOptions) (doomed : List Resource)
    (report : CollectReport) :
    (collectAll options true doomed report).Asks Request.Unchanging := by
  induction doomed generalizing report with
  | nil => exact asks_pure _
  | cons r rest ih =>
    refine asks_bind ?_ fun _ => ih _
    refine asks_bind (asks_describe Request.unchanging_kinds r) fun description => ?_
    exact asks_bind (asks_tell _) fun _ => asks_pure _

/-- It asks for none in its second phase. -/
theorem asks_collectPhase_of_dry (table : RankTable) (report : UpdateReport) :
    (collectPhase options table report).Asks Request.Unchanging := by
  by_cases hcollects : ∃ tag, options.gcTag = some tag ∧ options.skipGc = false
  · obtain ⟨tag, htag, hskip⟩ := hcollects
    have hsearch : (search (collectOptions options tag) report.seen).Asks Request.Unchanging := by
      refine asks_search ?_ ?_ (fun _ _ _ => ?_) _ _ <;> rfl
    rw [collectPhase_of_tag htag hskip, collect_eq_phases]
    refine asks_bind (asks_bind hsearch fun found => ?_) fun _ => asks_pure _
    rw [sweep, show (collectOptions options tag).dryRun = true from hdry]
    exact asks_collectAll_of_dry _ _ _
  · rw [collectPhase_of_none hcollects]
    exact asks_pure _

variable [Compression]

/-- It asks for none where an object is there. -/
theorem asks_patchExisting_of_dry (kind : KindInfo) (object live : Resource) (description : String) :
    (patchExisting options kind object live description).Asks Request.Unchanging := by
  rw [patchExisting_eq, hdry]
  refine asks_bind (asks_tellAll _) fun _ => ?_
  split <;> exact asks_pure _

/-- So it asks for none for an input. -/
theorem asks_applyOne_of_dry (kind : KindInfo) (r : Resource) :
    (applyOne defaultScope options kind r).Asks Request.Unchanging := by
  refine asks_bind (asks_describe Request.unchanging_kinds _) fun description => ?_
  refine asks_bind (asks_tell _) fun _ => asks_inContext ?_
  refine asks_bind (asks_request rfl) fun answer => ?_
  cases answer with
  | ok live => exact asks_patchExisting_of_dry hdry _ _ _ _
  | error e =>
    dsimp only
    split
    · exact asks_createMissing_of_dry hdry _ _ _
    · trivial

/-- A dry run of an update asks for no change, whatever it is answered. -/
theorem asks_update_of_dry (table : RankTable) (objects : List Resource) :
    (update defaultScope options table objects).Asks Request.Unchanging := by
  rw [update_eq_phases]
  exact asks_bind (asks_applyPhase Request.unchanging_kinds (asks_applyOne_of_dry hdry) table objects)
    fun report => asks_collectPhase_of_dry hdry table report

end Unchanging

section Apply

variable {memo₀ memo memo' : Memo MemoryCluster} {options : UpdateOptions} {defaultScope : String}
  {kind : KindInfo} {r stored live object : Resource} {description : String} {became : Outcome}

/-- A dry run shows an object that is missing as created. -/
theorem outcome_createMissing_of_dry (hcreate : options.create = true) (kind : KindInfo)
    (object : Resource) (description : String) (memo : Memo MemoryCluster) :
    (createMissing { options with dryRun := true } kind object description).outcome session memo =
      (.ok (object, .created), memo) := by
  rw [createMissing, hcreate]
  rfl

variable [Compression]

/-- It shows an object that needs a change as patched. -/
theorem outcome_patchExisting_of_dry (hchange : ¬MergePatch.isNoop (object.patchTo live) = true)
    (kind : KindInfo) (description : String) (memo : Memo MemoryCluster) :
    (patchExisting { options with dryRun := true } kind object live description).outcome session memo =
      (.ok (live, .patched), memo) := by
  rw [patchExisting_eq, outcome_bind, outcome_tellAll]
  dsimp only
  rw [if_neg hchange, if_pos rfl, outcome_pure]

/-- What a look at the target of an input finds is told by what is stored where it is submitted. -/
theorem get?_target_eq {c c₀ : MemoryCluster} (sound : c.Sound) (sound₀ : c₀.Sound)
    (hkinds : c.kinds = c₀.kinds) (hkind : KindInfo.find c₀.kinds r.gvk = some kind)
    (tag : Option String)
    (hsame : c.objects.get? (keyOf kind (r.submitted (targetScope defaultScope kind r) tag)) =
      c₀.objects.get? (keyOf kind (r.submitted (targetScope defaultScope kind r) tag))) :
    c.objects.get? (MemoryCluster.key kind (targetScope defaultScope kind r) r.name) =
      c₀.objects.get? (MemoryCluster.key kind (targetScope defaultScope kind r) r.name) := by
  by_cases hempty : targetScope defaultScope kind r = some ""
  · have hserved := KindInfo.gvk_of_find hkind ▸ hkind
    cases hlives : kind.scope with
    | cluster => simp [Resource.targetScope_cluster hlives] at hempty
    | namespaced =>
      rw [hempty, sound.keyed.inPlace.get?_empty_scope (hkinds ▸ hserved) hlives,
        sound₀.keyed.inPlace.get?_empty_scope hserved hlives]
  · rw [key_submitted hempty tag, hsame]

/-- What a dry run shows for an input of which the real run came to a result: the object that is
there, or the one that would be created. -/
inductive Shown (c₀ : MemoryCluster) (kind : KindInfo) (object : Resource) : Resource → Prop
  | stored {live : Resource} (found : c₀.objects.get? (keyOf kind object) = some live) :
    Shown c₀ kind object live
  | submitted (missing : c₀.objects.get? (keyOf kind object) = none) : Shown c₀ kind object object

/-- What the real run makes of an input, a dry run foretells from the cluster as it was, provided that
the object for which the input stands is still as it was. -/
theorem shown_of_applyOne (sound₀ : memo₀.server.Sound) (hkinds₀ : memo₀.kinds = some memo₀.server.kinds)
    (sound : memo.server.Sound) (hkinds : memo.kinds = some memo.server.kinds)
    (hsame : memo.server.kinds = memo₀.server.kinds)
    (hkind : KindInfo.find memo₀.server.kinds r.gvk = some kind) (hr : r.Submittable)
    (hsuits : r.SuitsScope memo₀.server.kinds)
    (hstored : ∀ id live, memo₀.server.objects.get? id = some live → live.SuitsScope memo₀.server.kinds)
    (hahead : memo.server.objects.get?
        (keyOf kind (r.submitted (targetScope defaultScope kind r) options.gcTag)) =
      memo₀.server.objects.get?
        (keyOf kind (r.submitted (targetScope defaultScope kind r) options.gcTag)))
    (hdry : options.dryRun = false)
    (h : (applyOne defaultScope options kind r).outcome session memo = (.ok (stored, became), memo')) :
    ∃ shown, (applyOne defaultScope { options with dryRun := true } kind r).outcome session memo₀ =
        (.ok (shown, became), memo₀) ∧
      shown.identity = stored.identity ∧
      Shown memo₀.server kind (r.submitted (targetScope defaultScope kind r) options.gcTag) shown := by
  have hwf := Resource.wellFormed_submitted (targetScope defaultScope kind r) options.gcTag hr.wellFormed
  have hlook := get?_target_eq sound sound₀ hsame hkind options.gcTag hahead
  obtain ⟨description, houtcome⟩ := outcome_applyOne options kind defaultScope r hkinds
  obtain ⟨description₀, houtcome₀⟩ :=
    outcome_applyOne { options with dryRun := true } kind defaultScope r hkinds₀
  rw [houtcome, outcome_inContext_eq_ok, hlook] at h
  simp only [houtcome₀, outcome_inContext_eq_ok]
  cases hlive : memo₀.server.objects.get?
      (MemoryCluster.key kind (targetScope defaultScope kind r) r.name) with
  | none =>
    rw [hlive] at h
    have hunsaved :=
      (Resource.string?_uid_submitted (targetScope defaultScope kind r) options.gcTag r).trans hr.unsaved
    obtain ⟨hcreate, hmissing, -, rfl, rfl, -⟩ := created_of_createMissing hdry hunsaved h
    exact ⟨_, outcome_createMissing_of_dry hcreate kind _ _ _, (Resource.identity_createdFor _ _ _).symm,
      .submitted (hahead ▸ hmissing)⟩
  | some live =>
    rw [hlive] at h
    obtain ⟨hfound, hnamespaced⟩ := key_target_eq sound₀.keyed.inPlace hkind defaultScope options.gcTag hlive
    by_cases hnoop : MergePatch.isNoop
        ((r.submitted (targetScope defaultScope kind r) options.gcTag).patchTo live) = true
    · rw [afterLook, outcome_patchExisting_of_noop hnoop] at h
      simp only [Prod.mk.injEq, Except.ok.injEq] at h
      obtain ⟨⟨rfl, rfl⟩, -⟩ := h
      exact ⟨_, outcome_patchExisting_of_noop hnoop, rfl, .stored hfound⟩
    · obtain ⟨uid, huid⟩ := (sound₀.fits _ live hfound).saved
      rw [afterLook] at h
      obtain ⟨-, rfl, rfl, -⟩ := patched_of_patchExisting hwf hdry (hahead.trans hfound) huid hnoop h
      refine ⟨live, outcome_patchExisting_of_dry hnoop kind _ _, ?_, .stored hfound⟩
      refine (Resource.identity_patched hwf (by rw [Resource.gvk_submitted, hkind])
        (sound₀.fits _ live hfound) hnamespaced ?_ (hstored _ live hfound) _ _ _).symm
      -- an input of a kind without namespaces is submitted as it is
      intro other hother hlives
      rw [Resource.gvk_submitted, hkind, Option.some.injEq] at hother
      subst hother
      rw [Resource.scope?_submitted, hsuits kind hkind hlives, Resource.targetScope_cluster hlives]
      rfl

end Apply

end Program

/-- How a dry run on a cluster as it was stands to the real run that has brought the objects under some
identities onto it: both report the same, what was not brought is as it was, and each of them knows
the objects that were brought in its own way. -/
structure Foreseen (c₀ c : MemoryCluster) (ids : List Identity) (report shown : UpdateReport) : Prop where
  applied : shown.applied = report.applied
  skippedUnknown : shown.skippedUnknown = report.skippedUnknown
  gc : shown.gc = none ∧ report.gc = none
  sound : c.Sound
  kinds : c.kinds = c₀.kinds
  forbidden : c.forbidden = c₀.forbidden
  rest : c.objects.filter (fun entry => entry.1 ∉ ids) = c₀.objects.filter fun entry => entry.1 ∉ ids
  covers : report.seen.Covers c ids
  marks : shown.seen.Marks c₀ ids

namespace Foreseen

variable {c₀ c c' : MemoryCluster} {ids : List Identity} {report shown : UpdateReport}

/-- What was not brought is found as it was. -/
theorem get?_eq (h : Foreseen c₀ c ids report shown) (sound₀ : c₀.Sound) {id : Identity} (hid : id ∉ ids) :
    c.objects.get? id = c₀.objects.get? id := by
  have hkept {s : Store} (rising : s.Rising) (object : Resource) :
      Store.get? id (s.filter fun entry => entry.1 ∉ ids) = some object ↔ s.get? id = some object := by
    rw [Store.get?_filter rising]
    simp [hid]
  refine Option.ext fun object => ?_
  rw [← hkept h.sound.rising, ← hkept sound₀.rising, h.rest]

/-- One input more. -/
theorem step [Compression] (h : Foreseen c₀ c ids report shown) (sound₀ : c₀.Sound) {kind : KindInfo}
    {object stored live : Resource} {hwf : object.toJson.WellFormed} {became : Outcome}
    (one : Brought c kind hwf stored became c') (hkind : KindInfo.find c₀.kinds object.gvk = some kind)
    (huid : object.uid? = none) (hlive : Program.Shown c₀ kind object live)
    (hidentity : live.identity = stored.identity) :
    Foreseen c₀ c' (ids ++ [keyOf kind object])
      { report with
        seen := report.seen.insert stored
        applied := report.applied ++ [(stored.identity, became)] }
      { shown with
        seen := shown.seen.insert live
        applied := shown.applied ++ [(live.identity, became)] } where
  applied := by rw [h.applied, hidentity]
  skippedUnknown := h.skippedUnknown
  gc := h.gc
  sound := one.sound h.sound (h.kinds ▸ hkind)
  kinds := one.kinds_eq.trans h.kinds
  forbidden := one.forbidden_eq.trans h.forbidden
  rest := by
    have hmore (s : Store) : (s.filter fun entry => entry.1 ∉ ids ++ [keyOf kind object]) =
        (s.filter fun entry => entry.1 ∉ ids).filter fun entry => entry.1 ≠ keyOf kind object := by
      rw [List.filter_filter]
      refine List.filter_congr fun entry _ => ?_
      simp [Bool.and_comm]
    rw [one.filter_eq (by simp), hmore, hmore, h.rest]
  covers := h.covers.insert (one.sound h.sound (h.kinds ▸ hkind)) one
  marks := by
    cases hlive with
    | stored found => exact h.marks.insert_stored sound₀ found
    | submitted missing => exact h.marks.insert_missing sound₀ huid hkind missing

end Foreseen

namespace Program

section Run

variable {memo₀ memo memo' : Memo MemoryCluster} {options : UpdateOptions} {defaultScope : String}
  {table : RankTable} {objects : List Resource} {report report' shown : UpdateReport}

/-- What the real run makes of one input more, the dry run foretells, unless something was brought to where
the input goes. -/
theorem foreseen_applyOne [Compression] (sound₀ : memo₀.server.Sound)
    (hkinds₀ : memo₀.kinds = some memo₀.server.kinds) (hkinds : memo.kinds = some memo.server.kinds)
    {ids : List Identity} (hforeseen : Foreseen memo₀.server memo.server ids report shown)
    {kind : KindInfo} {r stored : Resource} {became : Outcome}
    (hkind : KindInfo.find memo₀.server.kinds r.gvk = some kind) (hr : r.Submittable)
    (hsuits : r.SuitsScope memo₀.server.kinds)
    (hstored : ∀ id live, memo₀.server.objects.get? id = some live → live.SuitsScope memo₀.server.kinds)
    (hahead : keyOf kind (r.submitted (targetScope defaultScope kind r) options.gcTag) ∉ ids)
    (hdry : options.dryRun = false)
    (h : (applyOne defaultScope options kind r).outcome session memo = (.ok (stored, became), memo')) :
    ∃ live, (applyOne defaultScope { options with dryRun := true } kind r).outcome session memo₀ =
        (.ok (live, became), memo₀) ∧
      memo'.kinds = some memo'.server.kinds ∧
      Foreseen memo₀.server memo'.server
        (ids ++ [keyOf kind (r.submitted (targetScope defaultScope kind r) options.gcTag)])
        { report with
          seen := report.seen.insert stored
          applied := report.applied ++ [(stored.identity, became)] }
        { shown with
          seen := shown.seen.insert live
          applied := shown.applied ++ [(live.identity, became)] } := by
  obtain ⟨c', hbrought, rfl⟩ := brought_of_applyOne hforeseen.sound.keyed hkinds (hforeseen.kinds ▸ hkind)
    hr.wellFormed hr.unsaved hdry h
  obtain ⟨live, houtcome, hidentity, hshown⟩ := shown_of_applyOne sound₀ hkinds₀ hforeseen.sound hkinds
    hforeseen.kinds hkind hr hsuits hstored (hforeseen.get?_eq sound₀ hahead) hdry h
  have huid : (r.submitted (targetScope defaultScope kind r) options.gcTag).uid? = none := by
    rw [Resource.uid?_submitted, Resource.uid?, Resource.metaText?, hr.unsaved]
    rfl
  refine ⟨live, houtcome, ?_, ?_⟩
  · show memo.kinds = some c'.kinds
    rw [hkinds, hbrought.kinds_eq]
  · exact hforeseen.step sound₀ hbrought (by rw [Resource.gvk_submitted, hkind]) huid hshown hidentity

/-- What the real run makes of its inputs, the dry run foretells. -/
theorem foreseen_applyAll [Compression] (sound₀ : memo₀.server.Sound)
    (hkinds₀ : memo₀.kinds = some memo₀.server.kinds) (hkinds : memo.kinds = some memo.server.kinds)
    {ids : List Identity} (hforeseen : Foreseen memo₀.server memo.server ids report shown)
    (hinputs : ∀ r ∈ objects, r.Submittable) (hsuits : ∀ r ∈ objects, r.SuitsScope memo₀.server.kinds)
    (hstored : ∀ id live, memo₀.server.objects.get? id = some live → live.SuitsScope memo₀.server.kinds)
    (hapart : StoredApart memo₀.server.kinds defaultScope objects)
    (hahead : ∀ r ∈ objects, ∀ id, r.storedAt? memo₀.server.kinds defaultScope = some id → id ∉ ids)
    (hdry : options.dryRun = false)
    (h : (applyAll defaultScope options objects report).outcome session memo = (.ok report', memo')) :
    ∃ shown' ids',
      (applyAll defaultScope { options with dryRun := true } objects shown).outcome session memo₀ =
        (.ok shown', memo₀) ∧
      memo'.kinds = some memo'.server.kinds ∧ Foreseen memo₀.server memo'.server ids' report' shown' := by
  -- the identities that were brought grow with every input, and the reports with them
  induction objects generalizing memo report shown ids with
  | nil =>
    simp only [applyAll, outcome_pure, Prod.mk.injEq, Except.ok.injEq] at h
    obtain ⟨rfl, rfl⟩ := h
    exact ⟨shown, ids, rfl, hkinds, hforeseen⟩
  | cons r rest ih =>
    rw [StoredApart, List.pairwise_cons] at hapart
    have hrest {x : Resource} (hx : x ∈ rest) : x ∈ r :: rest := List.mem_cons_of_mem _ hx
    rw [applyAll, outcome_bind, outcome_kindOf _ hkinds, hforeseen.kinds] at h
    simp only [applyAll, outcome_bind, outcome_kindOf _ hkinds₀]
    cases hkind : KindInfo.find memo₀.server.kinds r.gvk with
    | none =>
      by_cases hignore : options.ignoreUnknown = true
      · simp only [hkind, if_pos hignore] at h ⊢
        have hskipped : Foreseen memo₀.server memo.server ids
            { report with skippedUnknown := report.skippedUnknown + 1 }
            { shown with skippedUnknown := shown.skippedUnknown + 1 } :=
          { hforeseen with skippedUnknown := congrArg (· + 1) hforeseen.skippedUnknown }
        exact ih hkinds hskipped (fun x hx => hinputs x (hrest hx)) (fun x hx => hsuits x (hrest hx))
          hapart.2 (fun x hx => hahead x (hrest hx)) h
      · simp [hkind, if_neg hignore] at h
    | some kind =>
      have hid : r.storedAt? memo₀.server.kinds defaultScope = some _ :=
        Resource.storedAt?_of_find hkind options.gcTag
      simp only [hkind] at h ⊢
      rw [outcome_bind] at h
      rcases hone : (applyOne defaultScope options kind r).outcome session memo with
        ⟨f | ⟨stored, became⟩, between⟩
      · simp [hone] at h
      · rw [hone] at h
        dsimp only at h
        obtain ⟨live, houtcome, hstill, hnext⟩ := foreseen_applyOne sound₀ hkinds₀ hkinds hforeseen hkind
          (hinputs r List.mem_cons_self) (hsuits r List.mem_cons_self) hstored
          (hahead r List.mem_cons_self _ hid) hdry hone
        -- what comes later goes elsewhere, so it is still ahead
        have hlater : ∀ x ∈ rest, ∀ id, x.storedAt? memo₀.server.kinds defaultScope = some id →
            id ∉ ids ++ [keyOf kind (r.submitted (targetScope defaultScope kind r) options.gcTag)] := by
          intro x hx id hxid hmem
          rcases List.mem_append.mp hmem with hmem | hmem
          · exact hahead x (hrest hx) id hxid hmem
          · exact hapart.1 x hx _ hid (List.mem_singleton.mp hmem ▸ hxid)
        rw [outcome_bind, houtcome]
        exact ih hstill hnext (fun x hx => hinputs x (hrest hx))
          (fun x hx => hsuits x (hrest hx)) hapart.2 hlater h

/-- A dry run says of all garbage that it would be deleted. -/
theorem outcome_collectAll_of_dry {kinds : List KindInfo} (hkinds : memo.kinds = some kinds)
    (options : DeleteOptions) (doomed : List Resource) (report : CollectReport) :
    (collectAll options true doomed report).outcome session memo =
      (.ok { report with wouldDelete := report.wouldDelete ++ doomed.map Resource.identity }, memo) := by
  induction doomed generalizing report with
  | nil => simp [collectAll]
  | cons r rest ih =>
    have hone : (collectOne options true r report).outcome session memo =
        (.ok { report with wouldDelete := report.wouldDelete ++ [r.identity] }, memo) := by
      rw [collectOne, outcome_bind, outcome_describe _ hkinds]
      dsimp only
      rw [outcome_bind, outcome_tell, if_pos rfl]
      rfl
    rw [collectAll, outcome_bind, hone]
    dsimp only
    rw [ih]
    simp

/-- What a collection across all namespaces deletes, or would delete, in order. -/
theorem outcome_collect_fallen (sound : memo.server.Sound) (hkinds : memo.kinds = some memo.server.kinds)
    {options : CollectOptions} (hmode : options.effectiveMode = .clusterScope) {seen : Seen}
    {ids : List Identity} (hmarks : seen.Marks memo.server ids) (table : RankTable) :
    ∃ report final,
      (collect options seen table).outcome session memo = (.ok report, final) ∧
      (if options.dryRun then report.wouldDelete else report.deleted) =
        (deletionOrder table (KindInfo.scopes memo.server.kinds)
          (memo.server.fallen options.tag ids)).map Resource.identity := by
  have hsearch : memo.server.CanSearch options := by
    intro hother
    rw [hmode] at hother
    contradiction
  obtain ⟨found, count, version, houtcome, hfound, hgathered⟩ := outcome_search_gathered hkinds hsearch seen
  have hdoomed : found.gathering.doomed = memo.server.fallen options.tag ids := by
    rw [hgathered, MemoryCluster.searched, hmode]
    exact sound.doomed_gathered hmarks options.tag
  have hperm := deletionOrder_perm table (KindInfo.scopes memo.server.kinds)
    (memo.server.fallen options.tag ids)
  rw [collect_eq_phases, outcome_bind, houtcome]
  dsimp only
  rw [sweep, hdoomed, hfound]
  cases hdry : options.dryRun with
  | true =>
    rw [@outcome_collectAll_of_dry
      { memo with server := memo.server.asked count, version := version } _ hkinds]
    exact ⟨_, _, rfl, by simp⟩
  | false =>
    obtain ⟨calls, hall⟩ := @outcome_collectAll
      { memo with server := memo.server.asked count, version := version } (sound.asked count) hkinds _
      ((hperm.map Resource.uid?).nodup_iff.mpr (sound.nodup_fallen hmarks options.tag))
      (fun r hr => sound.stored_of_fallen (hperm.mem_iff.mp hr)) (.forVersion found.version)
      { considered := found.gathering.considered, deleted := [], wouldDelete := [], raced := 0
        forbiddenLists := found.gathering.forbiddenLists }
    rw [hall]
    exact ⟨_, _, rfl, by simp⟩

/-- What the second phase of the real run deletes, that of the dry run would delete. -/
theorem foreseen_collectPhase (sound₀ : memo₀.server.Sound)
    (hkinds₀ : memo₀.kinds = some memo₀.server.kinds) (hkinds : memo.kinds = some memo.server.kinds)
    {ids : List Identity} (hforeseen : Foreseen memo₀.server memo.server ids report shown)
    (hmode : options.listMode = .clusterScope) (hselector : options.scopeSelector = none)
    (hdry : options.dryRun = false)
    (h : (collectPhase options table report).outcome session memo = (.ok report', memo')) :
    ∃ shown' final,
      (collectPhase { options with dryRun := true } table shown).outcome session memo₀ =
        (.ok shown', final) ∧
      shown'.applied = report'.applied ∧ shown'.skippedUnknown = report'.skippedUnknown ∧
      shown'.gc.map (·.wouldDelete) = report'.gc.map (·.deleted) := by
  by_cases hcollects : ∃ tag, options.gcTag = some tag ∧ options.skipGc = false
  · obtain ⟨tag, htag, hskip⟩ := hcollects
    have heffective : (collectOptions options tag).effectiveMode = .clusterScope := by
      simp [collectOptions, CollectOptions.effectiveMode, hselector, hmode]
    obtain ⟨gc, final, hcollect, hdeleted⟩ := outcome_collect_fallen hforeseen.sound hkinds heffective
      (hforeseen.covers.marks hforeseen.sound) table
    have heffective₀ :
        (collectOptions { options with dryRun := true } tag).effectiveMode = .clusterScope := heffective
    have htag₀ : ({ options with dryRun := true } : UpdateOptions).gcTag = some tag := htag
    obtain ⟨gc₀, final₀, hcollect₀, hwould⟩ :=
      outcome_collect_fallen sound₀ hkinds₀ heffective₀ hforeseen.marks table
    rw [collectPhase_of_tag htag hskip, outcome_bind, hcollect] at h
    simp only [outcome_pure, Prod.mk.injEq, Except.ok.injEq] at h
    obtain ⟨rfl, rfl⟩ := h
    rw [collectPhase_of_tag htag₀ hskip, outcome_bind, hcollect₀]
    refine ⟨_, _, rfl, hforeseen.applied, hforeseen.skippedUnknown, congrArg some ?_⟩
    -- what was brought is spared by both, and all else is as it was
    have hfallen := MemoryCluster.fallen_congr hforeseen.kinds hforeseen.forbidden hforeseen.rest tag
    rw [show (collectOptions options tag).dryRun = false from hdry, if_neg Bool.false_ne_true] at hdeleted
    rw [show (collectOptions { options with dryRun := true } tag).dryRun = true from rfl, if_pos rfl]
      at hwould
    show gc₀.wouldDelete = gc.deleted
    rw [hwould, hdeleted, hforeseen.kinds]
    exact congrArg (fun fallen => (deletionOrder table _ fallen).map Resource.identity) hfallen.symm
  · simp only [collectPhase_of_none hcollects, outcome_pure, Prod.mk.injEq, Except.ok.injEq] at h
    obtain ⟨rfl, rfl⟩ := h
    have hcollects₀ : ¬∃ tag, ({ options with dryRun := true } : UpdateOptions).gcTag = some tag ∧
      ({ options with dryRun := true } : UpdateOptions).skipGc = false := hcollects
    rw [collectPhase_of_none hcollects₀]
    refine ⟨shown, memo₀, rfl, hforeseen.applied, hforeseen.skippedUnknown, ?_⟩
    rw [hforeseen.gc.1, hforeseen.gc.2]
    rfl

/-- A dry run changes nothing and foretells the real run: whenever this succeeds, the dry run from
the same cluster reports the same objects with the same outcomes in the same order, and says of just
those objects that they would be deleted which the real run deletes, in their order. -/
theorem update_dry_run_foretells [Compression] (sound : memo.server.Sound) (hknows : KnowsKinds memo)
    (hstored : ∀ id object, memo.server.objects.get? id = some object →
      object.SuitsScope memo.server.kinds)
    (hinputs : ∀ r ∈ objects, r.Submittable)
    (hsuits : ∀ r ∈ objects, r.SuitsScope memo.server.kinds)
    (hapart : objects.Pairwise fun a b => ¬Resource.SharesTarget memo.server.kinds defaultScope a b)
    (hmode : options.listMode = .clusterScope) (hselector : options.scopeSelector = none)
    (hdry : options.dryRun = false) :
    let dry := (update defaultScope { options with dryRun := true } table objects).outcome session memo
    (dry.2.server.objects = memo.server.objects ∧ dry.2.server.lastVersion = memo.server.lastVersion ∧
      dry.2.server.calls = memo.server.calls) ∧
    ∀ report memo',
      (update defaultScope options table objects).outcome session memo = (.ok report, memo') →
      ∃ shown, dry.1 = .ok shown ∧ shown.applied = report.applied ∧
        shown.skippedUnknown = report.skippedUnknown ∧
        shown.gc.map (·.wouldDelete) = report.gc.map (·.deleted) := by
  intro dry
  constructor
  · have hasks : (update defaultScope { options with dryRun := true } table objects).Asks
        Request.Unchanging := asks_update_of_dry rfl table objects
    obtain ⟨count, hcount⟩ := server_outcome_of_unchanging hasks memo
    exact ⟨congrArg (·.objects) hcount, congrArg (·.lastVersion) hcount, congrArg (·.calls) hcount⟩
  intro report memo' h
  obtain ⟨count, haccepted⟩ := outcome_applyPhase_of_accepted hknows defaultScope table objects
  let asked : Memo MemoryCluster :=
    { memo with server := memo.server.asked count, kinds := some memo.server.kinds }
  let ordered := creationOrder table (KindInfo.scopes memo.server.kinds) objects
  -- both runs pass the same checks and then bring the same objects in the same order
  have hphase (options : UpdateOptions) (hcheck : checkUpdate objects options.gcTag = .ok ()) :
      (applyPhase defaultScope options table objects).outcome session memo =
        (applyAll defaultScope options ordered .empty).outcome session asked := haccepted options hcheck
  have hcheck := checkUpdate_of_update h
  rw [update_eq_phases, outcome_bind, hphase options hcheck] at h
  rcases happly : (applyAll defaultScope options ordered .empty).outcome session asked with
    ⟨f | applied, between⟩
  · simp [happly] at h
  rw [happly] at h
  have hperm := creationOrder_perm table (KindInfo.scopes memo.server.kinds) objects
  have hnothing : Foreseen asked.server asked.server [] .empty .empty :=
    ⟨rfl, rfl, ⟨rfl, rfl⟩, sound.asked count, rfl, rfl, rfl, Seen.Covers.empty _, Seen.Marks.empty _⟩
  have htold : asked.kinds = some asked.server.kinds := rfl
  obtain ⟨shown, ids, hshown, hkinds, hforeseen⟩ := foreseen_applyAll (sound.asked count) htold htold hnothing
    (fun r hr => hinputs r (hperm.mem_iff.mp hr))
    (fun r hr => hsuits r (hperm.mem_iff.mp hr)) hstored
    (storedApart_of_targets hperm hapart)
    (by simp) hdry happly
  obtain ⟨shown', final, hcollect, hsame⟩ :=
    foreseen_collectPhase (sound.asked count) rfl hkinds hforeseen hmode hselector hdry h
  refine ⟨shown', ?_, hsame⟩
  show ((update defaultScope { options with dryRun := true } table objects).outcome session memo).1 = _
  rw [update_eq_phases, outcome_bind, hphase { options with dryRun := true } hcheck, hshown]
  exact congrArg Prod.fst hcollect

set_option maxRecDepth 20000 in
/-- A dry run foretells what is patched and what is deleted. -/
theorem update_dry_run_foretells_patch_and_deletion :
    let configMap (metadata : Fields) : Fields :=
      [("apiVersion", .string "v1"), ("kind", .string "ConfigMap"), ("metadata", .object metadata)]
    let fallen : Resource :=
      ⟨configMap [("annotations", .object [(AnnotationKey.gcTag, .string "t")]), ("name", .string "a"),
        ("namespace", .string "default")], by decide, by decide, by decide⟩
    let stored : Resource :=
      ⟨configMap [("name", .string "b"), ("namespace", .string "default")],
        by decide, by decide, by decide⟩
    let input : Resource := ⟨configMap [("name", .string "b")], by decide, by decide, by decide⟩
    let kind : KindInfo := ⟨⟨"", "v1", "ConfigMap"⟩, "configmaps", .namespaced, KindInfo.everyVerb⟩
    let cluster : MemoryCluster :=
      ((MemoryCluster.empty MemoryCluster.standardKinds ⟨1, 28⟩).afterCreate kind fallen).afterCreate
        kind stored
    let options : UpdateOptions := ⟨true, some "t", false, .clusterScope, none, false, false⟩
    let dry := (update "default" { options with dryRun := true } .standard [input]).outcome session
      { server := cluster }
    ∃ shown, dry.1 = .ok shown ∧ shown.applied = [(stored.identity, .patched)] ∧
      shown.gc.map (·.wouldDelete) = some [fallen.identity] := by
  intro configMap fallen stored input kind cluster options dry
  have hempty : (MemoryCluster.empty MemoryCluster.standardKinds ⟨1, 28⟩).Sound :=
    MemoryCluster.sound_empty (by decide) _
  have hone : ((MemoryCluster.empty MemoryCluster.standardKinds ⟨1, 28⟩).afterCreate kind fallen).Sound :=
    hempty.create (by decide) (by decide)
  have hsound : cluster.Sound := hone.create (by decide) (by decide)
  have hstored : ∀ id object, cluster.objects.get? id = some object →
      object.SuitsScope cluster.kinds := by
    have hall : ∀ entry ∈ cluster.objects, entry.2.SuitsScope cluster.kinds := by decide +kernel
    exact fun id object hobject => hall (id, object) (Store.mem_of_get? hobject)
  have hinputs : ∀ r ∈ [input], r.Submittable := by
    intro r hr
    obtain rfl := List.mem_singleton.mp hr
    exact ⟨by decide, by decide⟩
  let real := (update "default" options .standard [input]).outcome session { server := cluster }
  have hreal : real.1.toOption.map (fun report => (report.applied, report.gc.map (·.deleted))) =
      some ([(stored.identity, .patched)], some [fallen.identity]) := by decide +kernel
  rcases hrun : real with ⟨f | report, memo'⟩
  · simp [hrun, Except.toOption] at hreal
  · rw [hrun] at hreal
    obtain ⟨happlied, hdeleted⟩ := Prod.mk.inj (Option.some.inj hreal)
    obtain ⟨shown, hshown, hsame, -, hwould⟩ := (@update_dry_run_foretells { server := cluster } options
      "default" .standard [input] _ hsound (.inl rfl) hstored hinputs (by decide) (by simp) rfl rfl
      rfl).2 report memo' hrun
    exact ⟨shown, hshown, hsame.trans happlied, hwould.trans hdeleted⟩

end Run

end Program

end Reconcile
