import Reconcile.Proofs.Command.Collect
import Reconcile.Proofs.Command.Laid
import Reconcile.Proofs.Command.Settled

/-!
# Snapshots after an update

After an update every input is in its place with a snapshot of what was submitted. No other input
takes it away, since no two stand for one object, and the collection does not, since it deletes only
what the run has not seen, and each piece of it in that piece's own place.
-/

namespace Reconcile

open MemoryCluster (keyOf session)

section Recall

variable [Compression]

/-- The object in the place of an input carries the snapshot of what is submitted for it. -/
structure Recalled (defaultScope : String) (tag : Option String) (c : MemoryCluster) (r : Resource)
    (kind : KindInfo) (live : Resource) : Prop where
  served : KindInfo.find c.kinds r.gvk = some kind
  found : c.objects.get? (keyOf kind (r.submitted (targetScope defaultScope kind r) tag)) = some live
  snapshot : live.annotation? AnnotationKey.lastApplied =
    some (Snapshot.ofResource ((r.placedIn (targetScope defaultScope kind r)).marked tag))

/-- What there is depends on the place of the input alone. -/
theorem Recalled.congr {defaultScope : String} {tag : Option String} {c c' : MemoryCluster}
    {r live : Resource} {kind : KindInfo} (h : Recalled defaultScope tag c r kind live)
    (hkinds : c'.kinds = c.kinds)
    (hplace : c'.objects.get? (keyOf kind (r.submitted (targetScope defaultScope kind r) tag)) =
      c.objects.get? (keyOf kind (r.submitted (targetScope defaultScope kind r) tag))) :
    Recalled defaultScope tag c' r kind live :=
  ⟨hkinds ▸ h.served, hplace ▸ h.found, h.snapshot⟩

/-- What bringing inputs onto a cluster comes to: each of them is recalled and was seen. -/
structure RecalledAll (defaultScope : String) (tag : Option String) (c : MemoryCluster) (seen : Seen)
    (objects : List Resource) (c' : MemoryCluster) (seen' : Seen) : Prop where
  kinds_eq : c'.kinds = c.kinds
  inPlace : c'.InPlace
  seen : ∀ x, seen.contains x = true → seen'.contains x = true
  others : ∀ id, (∀ r ∈ objects, r.storedAt? c.kinds defaultScope ≠ some id) →
    c'.objects.get? id = c.objects.get? id
  each : ∀ r ∈ objects, ∃ kind live, Recalled defaultScope tag c' r kind live ∧ seen'.contains live = true

/-- One input more. -/
theorem RecalledAll.cons {defaultScope : String} {tag : Option String} {c between c' : MemoryCluster}
    {seen seen' : Seen} {r stored : Resource} {rest : List Resource} {kind : KindInfo}
    (hkind : KindInfo.find c.kinds r.gvk = some kind)
    (one : Laid c kind (r.submitted (targetScope defaultScope kind r) tag) stored between)
    (hapart : ∀ x ∈ rest, ∀ id, r.storedAt? c.kinds defaultScope = some id →
      x.storedAt? c.kinds defaultScope ≠ some id)
    (later : RecalledAll defaultScope tag between (seen.insert stored) rest c' seen') :
    RecalledAll defaultScope tag c seen (r :: rest) c' seen' := by
  have hplace : r.storedAt? c.kinds defaultScope =
      some (keyOf kind (r.submitted (targetScope defaultScope kind r) tag)) :=
    Resource.storedAt?_of_find hkind tag
  have hstays : c'.objects.get? (keyOf kind (r.submitted (targetScope defaultScope kind r) tag)) =
      some stored := by
    rw [later.others _ fun x hx => one.kinds_eq ▸ hapart x hx _ hplace, one.found]
  refine ⟨later.kinds_eq.trans one.kinds_eq, later.inPlace,
    fun x hx => later.seen x (Seen.contains_insert_of_contains hx), fun id hid => ?_, fun x hx => ?_⟩
  · have hne : id ≠ keyOf kind (r.submitted (targetScope defaultScope kind r) tag) := by
      rintro rfl
      exact hid r List.mem_cons_self hplace
    rw [later.others id fun x hx => one.kinds_eq ▸ hid x (List.mem_cons_of_mem _ hx), one.others id hne]
  · rcases List.mem_cons.mp hx with rfl | hx
    · refine ⟨kind, stored, ⟨?_, hstays, one.annotated _ _ ?_⟩, later.seen _ Seen.contains_insert_self⟩
      · rw [later.kinds_eq, one.kinds_eq, hkind]
      · rw [Resource.submitted_eq, Snapshot.stamp, Resource.annotation?_setAnnotation, if_pos rfl]
    · exact later.each x hx

end Recall

/-- Looking for garbage takes down only what was listed and not seen. -/
theorem Gathering.mem_doomed_gathered {c : MemoryCluster} {tag : String} {seen : Seen} {r : Resource}
    (listings : List (KindInfo × Option String)) {g : Gathering}
    (h : r ∈ (listings.foldl (Program.gatheredFrom c tag seen) g).doomed) :
    r ∈ g.doomed ∨ (seen.contains r = false ∧ ∃ listing ∈ listings, r ∈ c.listed listing) := by
  have hvisited {found : List Resource} {g : Gathering}
      (h : r ∈ (found.foldl (Gathering.visit tag seen) g).doomed) :
      r ∈ g.doomed ∨ (seen.contains r = false ∧ r ∈ found) := by
    induction found generalizing g with
    | nil => exact .inl h
    | cons x rest ih =>
      rcases ih h with hr | ⟨hnew, hr⟩
      · rcases Gathering.mem_doomed_visit hr with hr | ⟨rfl, -, hnew⟩
        · exact .inl hr
        · exact .inr ⟨hnew, List.mem_cons_self⟩
      · exact .inr ⟨hnew, List.mem_cons_of_mem _ hr⟩
  induction listings generalizing g with
  | nil => exact .inl h
  | cons listing rest ih =>
    rcases ih h with hr | ⟨hnew, other, hother, hr⟩
    · rcases hvisited hr with hr | ⟨hnew, hr⟩
      · exact .inl hr
      · exact .inr ⟨hnew, listing, List.mem_cons_self, hr⟩
    · exact .inr ⟨hnew, other, List.mem_cons_of_mem _ hother, hr⟩

/-- The garbage that a search takes down was not seen, is of a kind that is served, and is stored. -/
theorem MemoryCluster.listed_of_doomed {c : MemoryCluster} (inPlace : c.InPlace) {tag : String} {seen : Seen}
    {scopes : List (Option String)} {r : Resource}
    (h : r ∈ ((Program.listings c.kinds scopes).foldl (Program.gatheredFrom c tag seen) .empty).doomed) :
    seen.contains r = false ∧ (∃ kind, KindInfo.find c.kinds r.gvk = some kind) ∧
      ∃ id, c.objects.get? id = some r := by
  rcases Gathering.mem_doomed_gathered _ h with hr | ⟨hnew, ⟨kind, scope⟩, hlisting, hlisted⟩
  · simp [Gathering.empty] at hr
  obtain ⟨-, id, hentry, hgvk, -⟩ := MemoryCluster.mem_listed.mp hlisted
  have hobject := Store.get?_of_mem inPlace.rising hentry
  refine ⟨hnew, ?_, id, hobject⟩
  have hkind : kind ∈ c.kinds := (Program.mem_listings.mp hlisting).1
  have hserved : (KindInfo.find c.kinds r.gvk).isSome = true := by
    rw [KindInfo.find, List.find?_isSome]
    exact ⟨kind, hkind, by rw [(inPlace.sits id r hobject).gvk, hgvk, beq_self_eq_true]⟩
  exact Option.isSome_iff_exists.mp hserved

namespace Program

variable {memo memo' : Memo MemoryCluster} {defaultScope : String} {options : UpdateOptions}
  {objects : List Resource}

/-- Bringing inputs onto a cluster leaves a snapshot of each in its place. -/
theorem recalledAll_of_applyAll [Compression] {report report' : UpdateReport} (inPlace : memo.server.InPlace)
    (hkinds : memo.kinds = some memo.server.kinds) (hwf : ∀ r ∈ objects, r.toJson.WellFormed)
    (hserved : ∀ r ∈ objects, ∃ kind, KindInfo.find memo.server.kinds r.gvk = some kind)
    (hapart : StoredApart memo.server.kinds defaultScope objects) (hdry : options.dryRun = false)
    (h : (applyAll defaultScope options objects report).outcome session memo = (.ok report', memo')) :
    ∃ c', RecalledAll defaultScope options.gcTag memo.server report.seen objects c' report'.seen ∧
      memo' = { memo with server := c' } := by
  induction objects generalizing report memo with
  | nil =>
    simp only [applyAll, outcome_pure, Prod.mk.injEq, Except.ok.injEq] at h
    obtain ⟨rfl, rfl⟩ := h
    exact ⟨_, ⟨rfl, inPlace, fun _ => id, fun _ _ => rfl, by simp⟩, rfl⟩
  | cons r rest ih =>
    rw [StoredApart, List.pairwise_cons] at hapart
    obtain ⟨kind, hkind⟩ := hserved r List.mem_cons_self
    rw [applyAll, outcome_bind, outcome_kindOf _ hkinds, hkind] at h
    dsimp only at h
    rw [outcome_bind] at h
    rcases hone : (applyOne defaultScope options kind r).outcome session memo with
      ⟨f | ⟨stored, became⟩, between⟩
    · simp [hone] at h
    rw [hone] at h
    obtain ⟨c₁, hlaid, rfl⟩ :=
      laid_of_applyOne inPlace hkinds hkind (hwf r List.mem_cons_self) hdry hone
    have hstill : memo.kinds = some c₁.kinds := by rw [hkinds, hlaid.kinds_eq]
    obtain ⟨c', hall, hmemo⟩ := @ih { memo with server := c₁ } _ hlaid.inPlace hstill
      (fun x hx => hwf x (List.mem_cons_of_mem _ hx))
      (hlaid.kinds_eq ▸ fun x hx => hserved x (List.mem_cons_of_mem _ hx))
      (hlaid.kinds_eq ▸ hapart.2) h
    exact ⟨c', .cons hkind hlaid hapart.1 hall, hmemo⟩

/-- What stays of a session when something is done to a cluster: it still knows the kinds, and nothing
else than what is in some places is touched. -/
structure Spares (places : Identity → Prop) (memo memo' : Memo MemoryCluster) : Prop where
  knows : memo'.kinds = memo.kinds
  kinds_eq : memo'.server.kinds = memo.server.kinds
  others : ∀ id, ¬places id → memo'.server.objects.get? id = memo.server.objects.get? id

/-- A session in which nothing was done spares everything. -/
theorem Spares.refl (places : Identity → Prop) (memo : Memo MemoryCluster) : Spares places memo memo :=
  ⟨rfl, rfl, fun _ _ => rfl⟩

/-- Where only what was not seen is touched, what was seen stays. -/
theorem Spares.get?_of_seen {seen : Seen} {id : Identity} {live : Resource}
    (h : Spares (fun id => ∃ live, memo.server.objects.get? id = some live ∧ seen.contains live = false)
      memo memo')
    (hlive : memo.server.objects.get? id = some live) (hseen : seen.contains live = true) :
    memo'.server.objects.get? id = some live := by
  rw [h.others id, hlive]
  rintro ⟨other, hother, hnew⟩
  obtain rfl : live = other := Option.some.inj (hlive.symm.trans hother)
  exact absurd (hseen.symm.trans hnew) Bool.noConfusion

/-- The place of a piece of garbage. -/
def PlaceOf (kinds : List KindInfo) (r : Resource) (id : Identity) : Prop :=
  ∃ kind, KindInfo.find kinds r.gvk = some kind ∧ keyOf kind r = id

/-- A deletion spares what is in other places. -/
theorem spares_delete {kind : KindInfo} {r : Resource}
    (hkind : KindInfo.find memo.server.kinds r.gvk = some kind) (how : DeleteOptions) :
    Spares (PlaceOf memo.server.kinds r) memo
      { memo with server := (memo.server.delete kind r.scope? r.name how).2 } := by
  obtain ⟨e, -, hsame⟩ | ⟨current, -, -, hdone⟩ :=
    MemoryCluster.delete_cases (c := memo.server) kind r.scope? r.name how
  · rw [hsame]
    exact .refl _ _
  · rw [hdone]
    refine ⟨rfl, rfl, fun id hid => ?_⟩
    have hne : MemoryCluster.key kind r.scope? r.name ≠ id := fun h => hid ⟨kind, hkind, h⟩
    simp only [MemoryCluster.afterErase, Store.get?_erase, if_neg hne]

/-- Collecting one piece of garbage deletes at most what is in its place. -/
theorem spares_collectOne (hkinds : memo.kinds = some memo.server.kinds) {how : DeleteOptions}
    {dryRun : Bool} {r : Resource} {report report' : CollectReport}
    (h : (collectOne how dryRun r report).outcome session memo = (.ok report', memo')) :
    Spares (PlaceOf memo.server.kinds r) memo memo' := by
  rw [collectOne, outcome_bind, outcome_describe _ hkinds] at h
  dsimp only at h
  rw [outcome_bind, outcome_tell] at h
  dsimp only at h
  split at h
  · simp only [outcome_pure, Prod.mk.injEq] at h
    exact h.2 ▸ .refl _ _
  cases hkind : KindInfo.find memo.server.kinds r.gvk with
  | none =>
    rw [resolve, outcome_bind, outcome_bind, outcome_kindInfo _ hkinds, hkind] at h
    simp at h
  | some kind =>
    rw [outcome_bind, outcome_resolve _ hkinds hkind] at h
    dsimp only at h
    rw [outcome_bind, outcome_request] at h
    dsimp only at h
    have hdeleted := spares_delete hkind (how.withUid r.uid?)
    split at h
    · simp only [outcome_pure, Prod.mk.injEq] at h
      exact h.2 ▸ hdeleted
    · split at h
      · simp only [outcome_pure, Prod.mk.injEq] at h
        exact h.2 ▸ hdeleted
      · simp at h

/-- Collecting garbage deletes at most what is in the places of its pieces. -/
theorem spares_collectAll (hkinds : memo.kinds = some memo.server.kinds) {how : DeleteOptions}
    {dryRun : Bool} {doomed : List Resource} {report report' : CollectReport}
    (h : (collectAll how dryRun doomed report).outcome session memo = (.ok report', memo')) :
    Spares (fun id => ∃ r ∈ doomed, PlaceOf memo.server.kinds r id) memo memo' := by
  induction doomed generalizing memo report with
  | nil =>
    simp only [collectAll, outcome_pure, Prod.mk.injEq] at h
    exact h.2 ▸ .refl _ _
  | cons r rest ih =>
    rw [collectAll, outcome_bind] at h
    rcases hone : (collectOne how dryRun r report).outcome session memo with ⟨f | middle, between⟩
    · simp [hone] at h
    rw [hone] at h
    have hfirst := spares_collectOne hkinds hone
    have hlater := ih (by rw [hfirst.knows, hfirst.kinds_eq, hkinds]) h
    rw [hfirst.kinds_eq] at hlater
    refine ⟨hlater.knows.trans hfirst.knows, hlater.kinds_eq.trans hfirst.kinds_eq, fun id hid => ?_⟩
    simp only [List.mem_cons, exists_eq_or_imp, not_or] at hid
    exact (hlater.others id hid.2).trans (hfirst.others id hid.1)

/-- A collection leaves alone what was seen. -/
theorem spares_collect (inPlace : memo.server.InPlace) (hkinds : memo.kinds = some memo.server.kinds)
    {options : CollectOptions} {seen : Seen} {table : RankTable} {report : CollectReport}
    (h : (collect options seen table).outcome session memo = (.ok report, memo')) :
    Spares (fun id => ∃ live, memo.server.objects.get? id = some live ∧ seen.contains live = false)
      memo memo' := by
  obtain ⟨found, count, version, hsearch, -, hgathered⟩ :=
    outcome_search_gathered hkinds (canSearch_of_collect hkinds h) seen
  let asked : Memo MemoryCluster := { memo with server := memo.server.asked count, version := version }
  have hasked : asked.kinds = some asked.server.kinds := hkinds
  rw [collect_eq_phases, outcome_bind_of_ok _ _ hsearch] at h
  have hswept := spares_collectAll hasked h
  refine ⟨hswept.knows, hswept.kinds_eq, fun id hid => hswept.others id ?_⟩
  rintro ⟨r, hr, kind, hkind, hplace⟩
  have hdoomed := (deletionOrder_perm table _ _).mem_iff.mp hr
  rw [hgathered] at hdoomed
  -- what was listed is in its own place
  obtain ⟨hnew, -, other, hobject⟩ := MemoryCluster.listed_of_doomed inPlace hdoomed
  obtain rfl : other = id := ((inPlace.sits other r hobject).place kind hkind).trans hplace
  exact hid ⟨r, hobject, hnew⟩

/-- So does the second phase of an update. -/
theorem spares_collectPhase (inPlace : memo.server.InPlace) (hkinds : memo.kinds = some memo.server.kinds)
    {table : RankTable} {applied report : UpdateReport}
    (h : (collectPhase options table applied).outcome session memo = (.ok report, memo')) :
    Spares (fun id => ∃ live, memo.server.objects.get? id = some live ∧ applied.seen.contains live = false)
      memo memo' := by
  by_cases hcollects : ∃ tag, options.gcTag = some tag ∧ options.skipGc = false
  · obtain ⟨tag, htag, hskip⟩ := hcollects
    rw [collectPhase_of_tag htag hskip, outcome_bind] at h
    rcases hcollect : (collect (collectOptions options tag) applied.seen table).outcome session memo with
      ⟨f | gc, final⟩
    · simp [hcollect] at h
    · simp only [hcollect, outcome_pure, Prod.mk.injEq] at h
      exact h.2 ▸ spares_collect inPlace hkinds hcollect
  · simp only [collectPhase_of_none hcollects, outcome_pure, Prod.mk.injEq] at h
    exact h.2 ▸ .refl _ _

/-- After an update that succeeds every input is in its place with a snapshot of itself. -/
theorem recalled_of_update [Compression] (inPlace : memo.server.InPlace) (hknows : KnowsKinds memo)
    (hwf : ∀ r ∈ objects, r.toJson.WellFormed)
    (hserved : ∀ r ∈ objects, ∃ kind, KindInfo.find memo.server.kinds r.gvk = some kind)
    (hapart : objects.Pairwise fun a b => ¬Resource.SharesTarget memo.server.kinds defaultScope a b)
    (hdry : options.dryRun = false) {table : RankTable} {report : UpdateReport}
    (h : (update defaultScope options table objects).outcome session memo = (.ok report, memo')) :
    memo'.server.kinds = memo.server.kinds ∧
      ∀ r ∈ objects, ∃ kind live,
        Recalled defaultScope options.gcTag memo'.server r kind live := by
  rw [update_eq_phases, outcome_bind] at h
  rcases happly : (applyPhase defaultScope options table objects).outcome session memo with
    ⟨f | applied, between⟩
  · simp [happly] at h
  rw [happly] at h
  obtain ⟨count, hall⟩ := applyAll_of_applyPhase hknows happly
  let told : Memo MemoryCluster :=
    { memo with server := memo.server.asked count, kinds := some memo.server.kinds }
  have htold : told.kinds = some told.server.kinds := rfl
  have hasked : told.server.InPlace := ⟨inPlace.rising, inPlace.sits⟩
  have hperm := creationOrder_perm table (KindInfo.scopes memo.server.kinds) objects
  obtain ⟨c, hrecalled, rfl⟩ := recalledAll_of_applyAll hasked htold
    (fun r hr => hwf r (hperm.mem_iff.mp hr)) (fun r hr => hserved r (hperm.mem_iff.mp hr))
    (storedApart_of_targets hperm hapart) hdry hall
  let applied' : Memo MemoryCluster := { told with server := c }
  have hknown : applied'.kinds = some applied'.server.kinds := congrArg some hrecalled.kinds_eq.symm
  have hspares := spares_collectPhase hrecalled.inPlace hknown h
  refine ⟨hspares.kinds_eq.trans hrecalled.kinds_eq, fun r hr => ?_⟩
  obtain ⟨kind, live, hlive, hseen⟩ := hrecalled.each r (hperm.mem_iff.mpr hr)
  exact ⟨kind, live, hlive.congr hspares.kinds_eq
    ((hspares.get?_of_seen hlive.found hseen).trans hlive.found.symm)⟩

end Program

end Reconcile
