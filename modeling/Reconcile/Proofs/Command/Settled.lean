import Reconcile.Proofs.Command.Seen
import Reconcile.Proofs.Resource.Held

/-!
# Inputs that need no change

An input is settled on a cluster when the object for which it stands is there and the patch that
leads to the input is empty. Bringing inputs onto a cluster settles every one of them, provided that
no two stand for one object: what is brought later leaves alone what was brought before.
-/

namespace Reconcile

open MemoryCluster (keyOf)

/-- An input as people write it: without null members, and without what a server gives out. -/
structure Resource.Plain (r : Resource) : Prop where
  wellFormed : r.toJson.WellFormed
  nullFree : r.toJson.nullFree = true
  uid : r.metadata.get? "uid" = none
  resourceVersion : r.metadata.get? "resourceVersion" = none

/-- A plain input can be submitted. -/
theorem Resource.Plain.submittable {r : Resource} (h : r.Plain) : r.Submittable :=
  ⟨h.wellFormed, by rw [Fields.string?_eq, h.uid]; rfl⟩

namespace MemoryCluster

/-- What is there of the object for which an input stands, with an identity of its own. -/
def heldFor (defaultScope : String) (c : MemoryCluster) (r : Resource) : Option Identity :=
  (r.storedAt? c.kinds defaultScope).bind fun id => (c.objects.get? id).map Resource.identity

/-- What is there of an input depends on what is stored in its place alone. -/
theorem heldFor_congr {defaultScope : String} {r : Resource} {c c' : MemoryCluster}
    (hkinds : c'.kinds = c.kinds)
    (hplace : ∀ id, r.storedAt? c.kinds defaultScope = some id → c'.objects.get? id = c.objects.get? id) :
    c'.heldFor defaultScope r = c.heldFor defaultScope r := by
  rw [heldFor, heldFor, hkinds]
  cases hid : r.storedAt? c.kinds defaultScope with
  | none => rfl
  | some id => rw [Option.bind_some, Option.bind_some, hplace id hid]

variable [Compression]

/-- An input that needs no change: if its kind is served, the object for which it stands is there
and the patch that leads to what is submitted is empty. -/
def Settled (defaultScope : String) (tag : Option String) (r : Resource) (c : MemoryCluster) : Prop :=
  ∀ kind, KindInfo.find c.kinds r.gvk = some kind →
    ∃ live, c.objects.get? (keyOf kind (r.submitted (targetScope defaultScope kind r) tag)) = some live ∧
      MergePatch.isNoop ((r.submitted (targetScope defaultScope kind r) tag).patchTo live) = true

/-- So does whether it is settled. -/
theorem Settled.congr {defaultScope : String} {tag : Option String} {r : Resource}
    {c c' : MemoryCluster} (h : c.Settled defaultScope tag r) (hkinds : c'.kinds = c.kinds)
    (hplace : ∀ id, r.storedAt? c.kinds defaultScope = some id → c'.objects.get? id = c.objects.get? id) :
    c'.Settled defaultScope tag r := by
  intro kind hkind
  rw [hkinds] at hkind
  rw [hplace _ (Resource.storedAt?_of_find hkind tag)]
  exact h kind hkind

end MemoryCluster

/-- What is there once an input was brought onto a cluster holds what was submitted. -/
theorem Brought.holds [Compression] {c c' : MemoryCluster} {kind : KindInfo} {r stored : Resource}
    {target tag : Option String} {became : Outcome} (keyed : c.Keyed) (hr : r.Plain)
    (h : Brought c kind (Resource.wellFormed_submitted target tag hr.wellFormed) stored became c') :
    MergePatch.Holds (r.submitted target tag).toJson stored.toJson := by
  have hsubmitted := Resource.wellFormed_submitted target tag hr.wellFormed
  have hfree := Resource.nullFree_submitted hr.nullFree target tag
  have huid : (r.submitted target tag).metadata.get? "uid" = none := by
    rw [Resource.get?_metadata_submitted _ _ _ (by decide) (by decide) (by decide), hr.uid]
  have hversion : (r.submitted target tag).metadata.get? "resourceVersion" = none := by
    rw [Resource.get?_metadata_submitted _ _ _ (by decide) (by decide) (by decide), hr.resourceVersion]
  cases h with
  | unchanged found noop =>
    have hlive := (keyed.fits _ _ found).wellFormed
    exact Resource.patched_eq_of_noop hsubmitted _ noop ▸ Resource.holds_patched hsubmitted hfree _ hlive
  | patched found =>
    have hlive := (keyed.fits _ _ found).wellFormed
    exact Resource.holds_stampedWith hsubmitted huid hversion
      (Resource.holds_patched hsubmitted hfree _ hlive) _ _
  | created =>
    have hscope : (keyOf kind (r.submitted target tag)).scope = none ∨
        (keyOf kind (r.submitted target tag)).scope = (r.submitted target tag).scope? := by
      rw [keyOf, MemoryCluster.key]
      cases kind.isNamespaced with
      | true => exact .inr rfl
      | false => exact .inl rfl
    exact Resource.holds_stampedWith hsubmitted huid hversion
      (Resource.holds_inScope hsubmitted hscope) _ _

/-- No two inputs stand for one object. -/
def StoredApart (kinds : List KindInfo) (defaultScope : String) (objects : List Resource) : Prop :=
  objects.Pairwise fun a b =>
    ∀ id, a.storedAt? kinds defaultScope = some id → b.storedAt? kinds defaultScope ≠ some id

/-- Inputs with different targets stand for different objects, in whatever order they are brought. -/
theorem storedApart_of_targets {kinds : List KindInfo} {defaultScope : String}
    {objects ordered : List Resource} (hperm : ordered.Perm objects)
    (h : objects.Pairwise fun a b => ¬Resource.SharesTarget kinds defaultScope a b) :
    StoredApart kinds defaultScope ordered := by
  have hordered := hperm.symm.pairwise h fun hne hshares => hne hshares.symm
  refine hordered.imp fun {a b} hne id ha hb => ?_
  obtain ⟨x, hx, hxid⟩ := Option.map_eq_some_iff.mp ha
  obtain ⟨y, hy, hyid⟩ := Option.map_eq_some_iff.mp hb
  exact Resource.normal_target?_ne hne hx hy (hxid.trans hyid.symm)

namespace BroughtAll

variable [Compression] {defaultScope : String} {options : UpdateOptions} {c c' : MemoryCluster}
  {report report' : UpdateReport} {objects : List Resource}

/-- Objects of unknown kinds are skipped only where that was asked for. -/
theorem ignored (h : BroughtAll defaultScope options c report objects c' report') :
    ∀ r ∈ objects, KindInfo.find c.kinds r.gvk = none → options.ignoreUnknown = true := by
  induction h with
  | nil => simp
  | skip _ ignored => exact fun _ _ _ => ignored
  | step _ known one _ ih =>
    intro r hr hunknown
    rcases List.mem_cons.mp hr with rfl | hr
    · simp [known] at hunknown
    · exact ih r hr (by rw [one.kinds_eq, hunknown])

/-- What no input stands for stays as it is. -/
theorem others (h : BroughtAll defaultScope options c report objects c' report') {id : Identity}
    (hid : ∀ r ∈ objects, r.storedAt? c.kinds defaultScope ≠ some id) :
    c'.objects.get? id = c.objects.get? id := by
  induction h with
  | nil => rfl
  | skip _ _ _ ih => exact ih fun r hr => hid r (List.mem_cons_of_mem _ hr)
  | step _ known one _ ih =>
    have hne := hid _ List.mem_cons_self
    rw [Resource.storedAt?_of_find known options.gcTag, ne_eq, Option.some.injEq] at hne
    rw [ih fun r hr => one.kinds_eq ▸ hid r (List.mem_cons_of_mem _ hr), one.others (Ne.symm hne)]

/-- After a run there is an object for every input of a served kind; the run has seen it, and it holds
what was submitted. -/
theorem held (h : BroughtAll defaultScope options c report objects c' report') (keyed : c.Keyed)
    (hplain : ∀ r ∈ objects, r.Plain) (hapart : StoredApart c.kinds defaultScope objects) :
    ∀ r ∈ objects, ∀ kind, KindInfo.find c.kinds r.gvk = some kind → ∃ live,
      c'.objects.get? (keyOf kind (r.submitted (targetScope defaultScope kind r) options.gcTag)) = some live ∧
      report'.seen.contains live = true ∧
      MergePatch.Holds (r.submitted (targetScope defaultScope kind r) options.gcTag).toJson live.toJson := by
  induction h with
  | nil => simp
  | @skip c _ _ _ r _ unknown _ later ih =>
    rw [StoredApart, List.pairwise_cons] at hapart
    intro x hx kind hkind
    rcases List.mem_cons.mp hx with rfl | hx
    · simp [unknown] at hkind
    · exact ih keyed (fun r hr => hplain r (List.mem_cons_of_mem _ hr)) hapart.2 x hx kind hkind
  | @step c between _ _ _ r stored _ kind _ input known one later ih =>
    rw [StoredApart, List.pairwise_cons] at hapart
    have hkinds : between.kinds = c.kinds := one.kinds_eq
    intro x hx other hother
    rcases List.mem_cons.mp hx with rfl | hx
    · obtain rfl : kind = other := Option.some.inj (known.symm.trans hother)
      have hplace : x.storedAt? c.kinds defaultScope = some _ :=
        Resource.storedAt?_of_find known options.gcTag
      -- what is brought later leaves alone what was brought before
      have hstays := later.others fun y hy => hkinds ▸ hapart.1 y hy _ hplace
      exact ⟨stored, by rw [hstays, one.found], later.seen Seen.contains_insert_self,
        one.holds keyed (hplain x List.mem_cons_self)⟩
    · refine ih (one.keyed keyed (by rw [Resource.gvk_submitted, known]))
        (fun r hr => hplain r (List.mem_cons_of_mem _ hr)) ?_ x hx other ?_
      · rw [hkinds]
        exact hapart.2
      · rw [hkinds, hother]

/-- After a run every input is settled. -/
theorem settled (h : BroughtAll defaultScope options c report objects c' report') (keyed : c.Keyed)
    (hplain : ∀ r ∈ objects, r.Plain)
    (hfaithful : ∀ r ∈ objects, ∀ kind, KindInfo.find c.kinds r.gvk = some kind →
      Snapshot.Faithful ((r.placedIn (targetScope defaultScope kind r)).marked options.gcTag))
    (hapart : StoredApart c.kinds defaultScope objects) :
    ∀ r ∈ objects, c'.Settled defaultScope options.gcTag r := by
  intro r hr kind hkind
  rw [h.kinds_eq] at hkind
  obtain ⟨live, hlive, -, hholds⟩ := h.held keyed hplain hapart r hr kind hkind
  exact ⟨live, hlive,
    Resource.isNoop_patchTo_submitted (hplain r hr).wellFormed (hfaithful r hr kind hkind) hholds⟩

/-- A run reports for each input of a served kind what is there in the end. -/
theorem applied_eq (h : BroughtAll defaultScope options c report objects c' report')
    (hapart : StoredApart c.kinds defaultScope objects) :
    report'.applied.map (·.1) =
      report.applied.map (·.1) ++ objects.filterMap (c'.heldFor defaultScope) := by
  induction h with
  | nil => simp
  | skip unknown _ later ih =>
    rw [StoredApart, List.pairwise_cons] at hapart
    rw [ih hapart.2, List.filterMap_cons, MemoryCluster.heldFor,
      Resource.storedAt?_of_unknown (by rw [later.kinds_eq, unknown])]
    rfl
  | @step c between after _ _ r stored _ kind _ input known one later ih =>
    rw [StoredApart, List.pairwise_cons] at hapart
    have hkinds : between.kinds = c.kinds := one.kinds_eq
    have hplace : r.storedAt? c.kinds defaultScope = some _ :=
      Resource.storedAt?_of_find known options.gcTag
    have hheld : after.heldFor defaultScope r = some stored.identity := by
      have hstays := later.others fun x hx => hkinds ▸ hapart.1 x hx _ hplace
      rw [MemoryCluster.heldFor, later.kinds_eq, hkinds, hplace, Option.bind_some, hstays, one.found]
      rfl
    rw [ih (hkinds ▸ hapart.2), List.filterMap_cons, hheld]
    simp

end BroughtAll

end Reconcile
