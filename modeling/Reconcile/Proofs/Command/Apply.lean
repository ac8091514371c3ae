import Reconcile.Proofs.Cluster.Told

/-!
# Bringing one object onto a cluster

Bringing an object onto a cluster that knows its objects by kind, namespace and name comes to one of
three things: the object that is there needs no change, it is patched, or there is none and it is
created. `Brought` says what each of them makes of the cluster, and `Program.brought_of_applyOne` that
there is no fourth.
-/

namespace Reconcile

open MemoryCluster (keyOf session)

namespace Program

section Create

variable {memo memo' : Memo MemoryCluster} {options : UpdateOptions} {kind : KindInfo}
  {object stored : Resource} {description : String} {became : Outcome}

/-- An object is created only where that was asked for, by one request that succeeds. -/
theorem create_of_createMissing (hdry : options.dryRun = false)
    (h : (createMissing options kind object description).outcome session memo =
      (.ok (stored, became), memo')) :
    options.create = true ∧ became = .created ∧ ∃ c',
      memo.server.create kind object.scope? object = (.ok stored, c') ∧
        memo' = { memo with server := c' } := by
  rw [createMissing] at h
  cases hcreate : options.create with
  | false => simp [hcreate] at h
  | true =>
    simp only [hcreate, hdry, Bool.not_true, Bool.false_eq_true, if_false] at h
    rw [outcome_bind, outcome_tell] at h
    dsimp only at h
    rw [outcome_bind, outcome_demand] at h
    have hanswer : session.answer (.create kind object.scope? object) memo =
        ((memo.server.create kind object.scope? object).1,
          { memo with server := (memo.server.create kind object.scope? object).2 }) := rfl
    rw [hanswer] at h
    rcases hcreated : memo.server.create kind object.scope? object with ⟨e | created, c'⟩
    · simp [hcreated] at h
    · simp only [hcreated, outcome_pure, Prod.mk.injEq, Except.ok.injEq] at h
      obtain ⟨⟨rfl, rfl⟩, rfl⟩ := h
      exact ⟨rfl, rfl, c', rfl, rfl⟩

/-- An object that is created was not there, and versions were left. -/
theorem created_of_createMissing (hdry : options.dryRun = false)
    (hunsaved : object.metadata.string? "uid" = none)
    (h : (createMissing options kind object description).outcome session memo =
      (.ok (stored, became), memo')) :
    options.create = true ∧ memo.server.objects.get? (keyOf kind object) = none ∧
      memo.server.versionsSpent = false ∧ stored = memo.server.createdFor kind object ∧ became = .created ∧
      memo' = { memo with server := memo.server.afterCreate kind object } := by
  obtain ⟨hcreate, hbecame, c', hcreated, rfl⟩ := create_of_createMissing hdry h
  obtain ⟨hmissing, hleft⟩ := MemoryCluster.missing_of_create _ hcreated
  rw [MemoryCluster.create_of_missing _ hleft hunsaved hmissing, Prod.mk.injEq, Except.ok.injEq] at hcreated
  obtain ⟨rfl, rfl⟩ := hcreated
  exact ⟨hcreate, hmissing, hleft, rfl, hbecame, rfl⟩

end Create

end Program

variable [Compression]

/-- What bringing an object onto a cluster comes to: what is stored then, what became of the object,
and the cluster after it. -/
inductive Brought (c : MemoryCluster) (kind : KindInfo) {object : Resource}
    (hwf : object.toJson.WellFormed) : Resource → Outcome → MemoryCluster → Prop
  | unchanged {live : Resource} (found : c.objects.get? (keyOf kind object) = some live)
    (noop : MergePatch.isNoop (object.patchTo live) = true) : Brought c kind hwf live .unchanged c
  | patched {live : Resource} {uid : String} (found : c.objects.get? (keyOf kind object) = some live)
    (saved : live.uid? = some uid) (placed : kind.isNamespaced = true → ∃ ns, object.scope? = some ns)
    (left : c.versionsSpent = false) :
    Brought c kind hwf
      ((Resource.patched hwf ((lastAppliedOf live).1.object?.getD []) live).stampedWith uid
        (c.lastVersion + 1))
      .patched
      (c.afterPatch kind object
        ((Resource.patched hwf ((lastAppliedOf live).1.object?.getD []) live).stampedWith uid
          (c.lastVersion + 1)))
  | created (missing : c.objects.get? (keyOf kind object) = none) (left : c.versionsSpent = false) :
    Brought c kind hwf (c.createdFor kind object) .created (c.afterCreate kind object)

namespace Brought

variable {c c' : MemoryCluster} {kind : KindInfo} {object stored : Resource}
  {hwf : object.toJson.WellFormed} {became : Outcome}

/-- What was brought is there. -/
theorem found (h : Brought c kind hwf stored became c') :
    c'.objects.get? (keyOf kind object) = some stored := by
  cases h with
  | unchanged found => exact found
  | patched => rw [MemoryCluster.afterPatch, Store.get?_insert, if_pos rfl]
  | created => rw [MemoryCluster.afterCreate, Store.get?_insert, if_pos rfl]

/-- Nothing else changes. -/
theorem others (h : Brought c kind hwf stored became c') {other : Identity}
    (hne : other ≠ keyOf kind object) : c'.objects.get? other = c.objects.get? other := by
  cases h with
  | unchanged => rfl
  | patched => rw [MemoryCluster.afterPatch, Store.get?_insert, if_neg (Ne.symm hne)]
  | created => rw [MemoryCluster.afterCreate, Store.get?_insert, if_neg (Ne.symm hne)]

/-- Nor is anything else seen by those who pass over what was brought. -/
theorem filter_eq (h : Brought c kind hwf stored became c') {keep : Identity × Resource → Bool}
    (hkeep : ∀ x, keep (keyOf kind object, x) = false) :
    c'.objects.filter keep = c.objects.filter keep := by
  cases h with
  | unchanged => rfl
  | patched => exact Store.filter_insert hkeep _ _
  | created => exact Store.filter_insert hkeep _ _

/-- The cluster goes on serving the same kinds. -/
theorem kinds_eq (h : Brought c kind hwf stored became c') : c'.kinds = c.kinds := by
  cases h <;> rfl

/-- The same listings stay forbidden. -/
theorem forbidden_eq (h : Brought c kind hwf stored became c') : c'.forbidden = c.forbidden := by
  cases h <;> rfl

/-- The cluster goes on knowing its objects by kind, namespace and name. -/
theorem keyed (h : Brought c kind hwf stored became c') (keyed : c.Keyed)
    (hkind : KindInfo.find c.kinds object.gvk = some kind) : c'.Keyed := by
  cases h with
  | unchanged => exact keyed
  | patched found saved placed =>
    exact keyed.put (MemoryCluster.fits_patched hkind hwf placed (keyed.fits _ _ found).wellFormed
      (Resource.uid?_ne_empty saved) _ _)
  | created => exact keyed.put (MemoryCluster.fits_createdFor hkind hwf)

/-- The cluster stays sound. -/
theorem sound (h : Brought c kind hwf stored became c') (sound : c.Sound)
    (hkind : KindInfo.find c.kinds object.gvk = some kind) : c'.Sound := by
  cases h with
  | unchanged => exact sound
  | patched found saved placed => exact sound.patch hkind hwf placed found saved _
  | created => exact sound.create hkind hwf

end Brought

namespace Program

section Apply

variable {memo memo' : Memo MemoryCluster} {options : UpdateOptions} {kind : KindInfo}
  {object stored live : Resource} {description : String} {became : Outcome}

/-- Whoever creates an object that is not there finds out. -/
theorem brought_of_createMissing (hwf : object.toJson.WellFormed) (hdry : options.dryRun = false)
    (hunsaved : object.metadata.string? "uid" = none)
    (h : (createMissing options kind object description).outcome session memo =
      (.ok (stored, became), memo')) :
    ∃ c', Brought memo.server kind hwf stored became c' ∧ memo' = { memo with server := c' } := by
  obtain ⟨-, hmissing, hleft, rfl, rfl, rfl⟩ := created_of_createMissing hdry hunsaved h
  exact ⟨_, .created hmissing hleft, rfl⟩

/-- Whoever finds an object there tells what its snapshot cannot be read for, and then leaves it alone,
shows that it would be patched, or patches it and creates it where it has just gone. -/
theorem patchExisting_eq (options : UpdateOptions) (kind : KindInfo) (object live : Resource)
    (description : String) :
    patchExisting options kind object live description = (do
      tellAll (lastAppliedOf live).2
      if MergePatch.isNoop (object.patchTo live) then return (live, .unchanged)
      else if options.dryRun then return (live, .patched)
      else
        match ← request (.patch kind object.scope? object.name (object.patchTo live)) with
        | .ok patched => return (patched, .patched)
        | .error e =>
          if e.isNotFound then createMissing options kind object description
          else .fail (Cause.api e)) := by
  rw [patchExisting, Resource.patchTo]
  rcases lastAppliedOf live with ⟨last, notices⟩
  dsimp only
  congr 1
  funext _
  congr 3
  funext answer
  cases answer <;> rfl

/-- An object that needs no change is left alone. -/
theorem outcome_patchExisting_of_noop (hnoop : MergePatch.isNoop (object.patchTo live) = true) :
    (patchExisting options kind object live description).outcome session memo =
      (.ok (live, .unchanged), memo) := by
  rw [patchExisting_eq, outcome_bind, outcome_tellAll]
  dsimp only
  rw [if_pos hnoop, outcome_pure]

/-- An object that is there and needs a change is patched by one request that succeeds. -/
theorem patch_of_patchExisting (hwf : object.toJson.WellFormed) (hdry : options.dryRun = false)
    (found : memo.server.objects.get? (keyOf kind object) = some live)
    (hchange : ¬MergePatch.isNoop (object.patchTo live) = true)
    (h : (patchExisting options kind object live description).outcome session memo =
      (.ok (stored, became), memo')) :
    memo.server.versionsSpent = false ∧ became = .patched ∧ ∃ c',
      memo.server.patch kind object.scope? object.name (object.patchTo live) = (.ok stored, c') ∧
        memo' = { memo with server := c' } := by
  have hanswer : session.answer
      (.patch kind object.scope? object.name (object.patchTo live)) memo =
        ((memo.server.patch kind object.scope? object.name (object.patchTo live)).1,
          { memo with
            server := (memo.server.patch kind object.scope? object.name (object.patchTo live)).2 }) := rfl
  rw [patchExisting_eq, outcome_bind, outcome_tellAll] at h
  dsimp only at h
  rw [if_neg hchange, hdry, if_neg Bool.false_ne_true, outcome_bind, outcome_request, hanswer] at h
  have hpatched := Resource.ofJson_apply_patchTo hwf live
  cases hspent : memo.server.versionsSpent with
  | true =>
    rw [MemoryCluster.patch_of_versionsSpent _ hspent found hpatched] at h
    simp [ApiError.isNotFound] at h
  | false =>
    obtain ⟨uid, made, -, hdone⟩ := MemoryCluster.patch_eq hspent found hpatched
    rw [← keyOf] at hdone
    rw [hdone] at h ⊢
    simp only [outcome_pure, Prod.mk.injEq, Except.ok.injEq] at h
    obtain ⟨⟨rfl, rfl⟩, rfl⟩ := h
    exact ⟨rfl, rfl, _, rfl, rfl⟩

/-- What is stored then is the patched object, with its uid and the next version. -/
theorem patched_of_patchExisting (hwf : object.toJson.WellFormed) (hdry : options.dryRun = false)
    {uid : String} (found : memo.server.objects.get? (keyOf kind object) = some live)
    (saved : live.uid? = some uid) (hchange : ¬MergePatch.isNoop (object.patchTo live) = true)
    (h : (patchExisting options kind object live description).outcome session memo =
      (.ok (stored, became), memo')) :
    memo.server.versionsSpent = false ∧
      stored = (Resource.patched hwf ((lastAppliedOf live).1.object?.getD []) live).stampedWith uid
        (memo.server.lastVersion + 1) ∧
      became = .patched ∧ memo' = { memo with server := memo.server.afterPatch kind object stored } := by
  obtain ⟨hleft, hbecame, c', hpatch, rfl⟩ := patch_of_patchExisting hwf hdry found hchange h
  rw [MemoryCluster.patch_of_present _ hleft found saved (Resource.ofJson_apply_patchTo hwf live),
    Prod.mk.injEq, Except.ok.injEq] at hpatch
  obtain ⟨rfl, rfl⟩ := hpatch
  exact ⟨hleft, rfl, hbecame, rfl⟩

/-- An input of a namespaced kind is submitted in its target, unless that is the empty namespace. -/
theorem scope?_submitted_of_namespaced {defaultScope : String} {r : Resource}
    (hlives : kind.scope = .namespaced) (hplaced : targetScope defaultScope kind r ≠ some "")
    (tag : Option String) :
    (r.submitted (targetScope defaultScope kind r) tag).scope? = targetScope defaultScope kind r := by
  rw [Resource.scope?_submitted]
  rw [Resource.targetScope_namespaced hlives] at hplaced ⊢
  cases hown : r.scope? with
  | some own => rfl
  | none =>
    have hne : defaultScope ≠ "" := by simpa [hown] using hplaced
    have hkept : (some defaultScope).filter (· ≠ "") = some defaultScope := by simp [hne]
    rw [Option.getD_none, hkept, Option.none_or]

/-- The object is looked for where it is submitted, unless that is in the empty namespace. -/
theorem key_submitted {defaultScope : String} {r : Resource}
    (hplaced : targetScope defaultScope kind r ≠ some "") (tag : Option String) :
    MemoryCluster.key kind (targetScope defaultScope kind r) r.name =
      keyOf kind (r.submitted (targetScope defaultScope kind r) tag) := by
  rw [keyOf, Resource.name_submitted]
  refine MemoryCluster.key_congr fun hnamespaced => ?_
  have hlives : kind.scope = .namespaced := by simpa [KindInfo.isNamespaced] using hnamespaced
  exact (scope?_submitted_of_namespaced hlives hplaced tag).symm

/-- Where an input is looked for and found, it is submitted: nothing is found in the empty
namespace. -/
theorem key_target_eq {c : MemoryCluster} (inPlace : c.InPlace) {r : Resource}
    (hkind : KindInfo.find c.kinds r.gvk = some kind) (defaultScope : String) (tag : Option String)
    {live : Resource}
    (h : c.objects.get? (MemoryCluster.key kind (targetScope defaultScope kind r) r.name) = some live) :
    c.objects.get? (keyOf kind (r.submitted (targetScope defaultScope kind r) tag)) = some live ∧
      (kind.isNamespaced = true →
        ∃ ns, (r.submitted (targetScope defaultScope kind r) tag).scope? = some ns) := by
  have hplaced : targetScope defaultScope kind r ≠ some "" := by
    intro hempty
    cases hlives : kind.scope with
    | cluster => simp [Resource.targetScope_cluster hlives] at hempty
    | namespaced =>
      have hnone := inPlace.get?_empty_scope (KindInfo.gvk_of_find hkind ▸ hkind) hlives r.name
      rw [hempty, hnone] at h
      contradiction
  refine ⟨key_submitted hplaced tag ▸ h, fun hnamespaced => ?_⟩
  have hlives : kind.scope = .namespaced := by simpa [KindInfo.isNamespaced] using hnamespaced
  have hscope := scope?_submitted_of_namespaced hlives hplaced tag
  exact ⟨_, hscope.trans (Resource.targetScope_namespaced hlives)⟩

variable {kinds : List KindInfo} {defaultScope : String} {r : Resource}

/-- What follows once it is known whether an object is there. -/
def afterLook (options : UpdateOptions) (kind : KindInfo) (object : Resource) (description : String) :
    Option Resource → Program (Resource × Outcome)
  | some live => patchExisting options kind object live description
  | none => createMissing options kind object description

/-- Bringing one object begins with a look at what is there. -/
theorem outcome_applyOne (options : UpdateOptions) (kind : KindInfo) (defaultScope : String)
    (r : Resource) (hkinds : memo.kinds = some kinds) :
    ∃ description,
      (applyOne defaultScope options kind r).outcome session memo =
        ((afterLook options kind (r.submitted (targetScope defaultScope kind r) options.gcTag) description
          (memo.server.objects.get? (MemoryCluster.key kind (targetScope defaultScope kind r) r.name))
            ).inContext ("error updating " ++ description)).outcome session memo := by
  have hanswer : session.answer (.get kind (targetScope defaultScope kind r) r.name) memo =
      (memo.server.get kind (targetScope defaultScope kind r) r.name, memo) := rfl
  rw [applyOne, outcome_bind, outcome_describe _ hkinds]
  dsimp only
  rw [outcome_bind, outcome_tell]
  dsimp only
  refine ⟨(r.submitted (targetScope defaultScope kind r) options.gcTag).description
    (KindInfo.find kinds (r.submitted (targetScope defaultScope kind r) options.gcTag).gvk), ?_⟩
  rw [outcome_inContext, outcome_inContext, outcome_bind, outcome_request, Resource.name_submitted,
    hanswer, MemoryCluster.get]
  cases memo.server.objects.get? (MemoryCluster.key kind (targetScope defaultScope kind r) r.name) <;> rfl

/-- What bringing one object onto a cluster comes to. -/
theorem brought_of_applyOne (keyed : memo.server.Keyed) (hkinds : memo.kinds = some memo.server.kinds)
    (hkind : KindInfo.find memo.server.kinds r.gvk = some kind) (hwf : r.toJson.WellFormed)
    (hunsaved : r.metadata.string? "uid" = none) (hdry : options.dryRun = false)
    (h : (applyOne defaultScope options kind r).outcome session memo = (.ok (stored, became), memo')) :
    ∃ c', Brought memo.server kind
      (Resource.wellFormed_submitted (targetScope defaultScope kind r) options.gcTag hwf)
      stored became c' ∧ memo' = { memo with server := c' } := by
  obtain ⟨description, houtcome⟩ := outcome_applyOne options kind defaultScope r hkinds
  rw [houtcome, outcome_inContext_eq_ok] at h
  have hsubmitted := Resource.wellFormed_submitted (targetScope defaultScope kind r) options.gcTag hwf
  have hstill := (Resource.string?_uid_submitted (targetScope defaultScope kind r) options.gcTag r).trans hunsaved
  cases hlook : memo.server.objects.get?
      (MemoryCluster.key kind (targetScope defaultScope kind r) r.name) with
  | none =>
    rw [hlook] at h
    exact brought_of_createMissing hsubmitted hdry hstill h
  | some live =>
    rw [hlook] at h
    obtain ⟨hfound, hplaced⟩ := key_target_eq keyed.inPlace hkind defaultScope options.gcTag hlook
    obtain ⟨uid, huid⟩ := (keyed.fits _ live hfound).saved
    by_cases hnoop : MergePatch.isNoop
        ((r.submitted (targetScope defaultScope kind r) options.gcTag).patchTo live) = true
    · rw [afterLook, outcome_patchExisting_of_noop hnoop] at h
      simp only [Prod.mk.injEq, Except.ok.injEq] at h
      obtain ⟨⟨rfl, rfl⟩, rfl⟩ := h
      exact ⟨_, .unchanged hfound hnoop, rfl⟩
    · rw [afterLook] at h
      obtain ⟨hleft, rfl, rfl, rfl⟩ := patched_of_patchExisting hsubmitted hdry hfound huid hnoop h
      exact ⟨_, .patched hfound huid hplaced hleft, rfl⟩

end Apply

end Program

/-- An input as a command accepts it: read from well formed JSON, and stating no uid of its own. -/
structure Resource.Submittable (r : Resource) : Prop where
  wellFormed : r.toJson.WellFormed
  unsaved : r.metadata.string? "uid" = none

/-- What bringing objects onto a cluster one after the other comes to: objects of unknown kinds are
skipped, and each other one is brought onto what the ones before left. -/
inductive BroughtAll (defaultScope : String) (options : UpdateOptions) :
    MemoryCluster → UpdateReport → List Resource → MemoryCluster → UpdateReport → Prop
  | nil (c : MemoryCluster) (report : UpdateReport) : BroughtAll defaultScope options c report [] c report
  | skip {c c' : MemoryCluster} {report report' : UpdateReport} {r : Resource} {rest : List Resource}
    (unknown : KindInfo.find c.kinds r.gvk = none) (ignored : options.ignoreUnknown = true)
    (later : BroughtAll defaultScope options c
      { report with skippedUnknown := report.skippedUnknown + 1 } rest c' report') :
    BroughtAll defaultScope options c report (r :: rest) c' report'
  | step {c between c' : MemoryCluster} {report report' : UpdateReport} {r stored : Resource}
    {rest : List Resource} {kind : KindInfo} {became : Outcome} (input : r.Submittable)
    (known : KindInfo.find c.kinds r.gvk = some kind)
    (one : Brought c kind
      (Resource.wellFormed_submitted (targetScope defaultScope kind r) options.gcTag input.wellFormed)
      stored became between)
    (later : BroughtAll defaultScope options between
      { report with
        seen := report.seen.insert stored
        applied := report.applied ++ [(stored.identity, became)] } rest c' report') :
    BroughtAll defaultScope options c report (r :: rest) c' report'

namespace Program

variable {memo memo' : Memo MemoryCluster} {options : UpdateOptions} {defaultScope : String}

/-- What bringing objects onto a cluster comes to. -/
theorem broughtAll_of_applyAll {objects : List Resource} {report report' : UpdateReport}
    (keyed : memo.server.Keyed) (hkinds : memo.kinds = some memo.server.kinds)
    (hinputs : ∀ r ∈ objects, r.Submittable) (hdry : options.dryRun = false)
    (h : (applyAll defaultScope options objects report).outcome session memo = (.ok report', memo')) :
    ∃ c', BroughtAll defaultScope options memo.server report objects c' report' ∧
      memo' = { memo with server := c' } := by
  -- each input meets the cluster that the inputs before it left
  induction objects generalizing report memo with
  | nil =>
    simp only [applyAll, outcome_pure, Prod.mk.injEq, Except.ok.injEq] at h
    obtain ⟨rfl, rfl⟩ := h
    exact ⟨_, .nil _ _, rfl⟩
  | cons r rest ih =>
    have hrest : ∀ r ∈ rest, r.Submittable := fun r hr => hinputs r (List.mem_cons_of_mem _ hr)
    rw [applyAll, outcome_bind, outcome_kindOf _ hkinds] at h
    cases hkind : KindInfo.find memo.server.kinds r.gvk with
    | none =>
      cases hignore : options.ignoreUnknown with
      | false => simp [hkind, hignore] at h
      | true =>
        simp only [hkind, hignore, if_true] at h
        obtain ⟨c', hall, hmemo⟩ := ih keyed hkinds hrest h
        exact ⟨c', .skip hkind hignore hall, hmemo⟩
    | some kind =>
      have hr := hinputs r List.mem_cons_self
      simp only [hkind] at h
      rw [outcome_bind] at h
      rcases hone : (applyOne defaultScope options kind r).outcome session memo with
        ⟨f | ⟨stored, became⟩, between⟩
      · simp [hone] at h
      · rw [hone] at h
        obtain ⟨c₁, hbrought, rfl⟩ :=
          brought_of_applyOne keyed hkinds hkind hr.wellFormed hr.unsaved hdry hone
        have hkeyed := hbrought.keyed keyed (by rw [Resource.gvk_submitted, hkind])
        have hstill : memo.kinds = some c₁.kinds := by rw [hkinds, hbrought.kinds_eq]
        obtain ⟨c', hall, hmemo⟩ := ih hkeyed hstill hrest h
        exact ⟨c', .step hr hkind hbrought hall, hmemo⟩

end Program

end Reconcile
