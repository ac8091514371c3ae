import Reconcile.Proofs.Cluster.Answers
import Reconcile.Proofs.Command.Seen

/-!
# What an update lays down

Bringing an input onto a cluster leaves an object in its place that carries every annotation of what
was submitted, above all the snapshot, whether it was created, patched or left alone. Nothing is asked
of the uids here: the inputs may state some, and objects may share them.
-/

namespace Reconcile

open MemoryCluster (keyOf session)

namespace Resource

/-- An object that is put into a namespace keeps its annotations. -/
theorem annotation?_inScope (scope : Option String) (object : Resource) (key : String) :
    (object.inScope scope).annotation? key = object.annotation? key := by
  cases scope with
  | none => rfl
  | some ns =>
    rw [inScope, setScope, annotation?, annotation?,
      Fields.slot_congr (get?_metadata_setMeta_of_ne object _ _ _ (by decide))]

end Resource

/-- What bringing an object onto a cluster lays down: it is in its place with all annotations that were
submitted, and everything else stays. -/
structure Laid (c : MemoryCluster) (kind : KindInfo) (object stored : Resource) (c' : MemoryCluster) :
    Prop where
  found : c'.objects.get? (keyOf kind object) = some stored
  others : ∀ other, other ≠ keyOf kind object → c'.objects.get? other = c.objects.get? other
  kinds_eq : c'.kinds = c.kinds
  inPlace : c'.InPlace
  annotated : ∀ key s, object.annotation? key = some s → stored.annotation? key = some s

namespace Laid

variable {c : MemoryCluster} {kind : KindInfo} {object stored : Resource}

/-- Nothing is done. -/
theorem of_noop [Compression] (inPlace : c.InPlace) (hwf : object.toJson.WellFormed)
    (found : c.objects.get? (keyOf kind object) = some stored)
    (noop : MergePatch.isNoop (object.patchTo stored) = true) : Laid c kind object stored c where
  found := found
  others _ _ := rfl
  kinds_eq := rfl
  inPlace := inPlace
  annotated := by
    intro key s h
    rw [← Resource.patched_eq_of_noop hwf _ noop]
    exact Resource.annotation?_patched hwf _ _ h

/-- An object is put in. -/
theorem of_put (inPlace : c.InPlace) (hkind : KindInfo.find c.kinds object.gvk = some kind)
    (hgvk : stored.gvk = object.gvk) (hkey : keyOf kind stored = keyOf kind object)
    (annotated : ∀ key s, object.annotation? key = some s → stored.annotation? key = some s)
    (made : Nat) (calls : List String) :
    Laid c kind object stored (c.afterPut (keyOf kind object) stored made calls) where
  found := by rw [MemoryCluster.afterPut, Store.get?_insert, if_pos rfl]
  others other hother := by rw [MemoryCluster.afterPut, Store.get?_insert, if_neg (Ne.symm hother)]
  kinds_eq := rfl
  inPlace := by
    refine ⟨inPlace.rising.insert _ _, fun id x hx => ?_⟩
    simp only [MemoryCluster.afterPut, Store.get?_insert] at hx
    split at hx
    next hid =>
      subst hid
      exact Option.some.inj hx ▸ MemoryCluster.sits_of_keyOf_eq hkind hgvk hkey
    next => exact inPlace.sits id x hx
  annotated := annotated

end Laid

namespace Program

variable {memo memo' : Memo MemoryCluster} {options : UpdateOptions} {kind : KindInfo}
  {object stored live : Resource} {description : String} {became : Outcome}

/-- Whoever creates an object lays it down. -/
theorem laid_of_createMissing (inPlace : memo.server.InPlace)
    (hkind : KindInfo.find memo.server.kinds object.gvk = some kind) (hdry : options.dryRun = false)
    (h : (createMissing options kind object description).outcome session memo =
      (.ok (stored, became), memo')) :
    ∃ c', Laid memo.server kind object stored c' ∧ memo' = { memo with server := c' } := by
  obtain ⟨-, -, c', hcreate, rfl⟩ := create_of_createMissing hdry h
  refine ⟨c', ?_, rfl⟩
  obtain ⟨e, hfailed⟩ | ⟨-, -, uid, made, -, hcreated⟩ :=
    MemoryCluster.create_cases (c := memo.server) kind object.scope? object
  · rw [hfailed] at hcreate
    simp at hcreate
  rw [hcreated, Prod.mk.injEq, Except.ok.injEq] at hcreate
  obtain ⟨rfl, rfl⟩ := hcreate
  refine .of_put inPlace hkind (by simp) (MemoryCluster.keyOf_created kind object _ _) ?_ _ _
  intro key s hs
  rw [Resource.annotation?_stampedWith, Resource.annotation?_inScope, hs]

variable [Compression]

/-- Whoever finds an object and brings it into line lays it down. -/
theorem laid_of_patchExisting (inPlace : memo.server.InPlace)
    (hkind : KindInfo.find memo.server.kinds object.gvk = some kind) (hwf : object.toJson.WellFormed)
    (hplaced : kind.isNamespaced = true → ∃ ns, object.scope? = some ns) (hdry : options.dryRun = false)
    (found : memo.server.objects.get? (keyOf kind object) = some live)
    (h : (patchExisting options kind object live description).outcome session memo =
      (.ok (stored, became), memo')) :
    ∃ c', Laid memo.server kind object stored c' ∧ memo' = { memo with server := c' } := by
  by_cases hnoop : MergePatch.isNoop (object.patchTo live) = true
  · rw [outcome_patchExisting_of_noop hnoop] at h
    simp only [Prod.mk.injEq, Except.ok.injEq] at h
    obtain ⟨⟨rfl, rfl⟩, rfl⟩ := h
    exact ⟨_, .of_noop inPlace hwf found hnoop, rfl⟩
  obtain ⟨hleft, -, c', hpatch, rfl⟩ := patch_of_patchExisting hwf hdry found hnoop h
  obtain ⟨uid, made, -, hdone⟩ :=
    MemoryCluster.patch_eq hleft found (Resource.ofJson_apply_patchTo hwf live)
  rw [hdone, Prod.mk.injEq, Except.ok.injEq] at hpatch
  obtain ⟨rfl, rfl⟩ := hpatch
  refine ⟨_, .of_put inPlace hkind (by simp) (MemoryCluster.keyOf_patched hwf hplaced _ live _ _) ?_ made
    _, rfl⟩
  intro key s hs
  rw [Resource.annotation?_stampedWith]
  exact Resource.annotation?_patched hwf _ _ hs

/-- An input is laid down where it is submitted. -/
theorem laid_of_applyOne (inPlace : memo.server.InPlace) (hkinds : memo.kinds = some memo.server.kinds)
    {r : Resource} {defaultScope : String} (hkind : KindInfo.find memo.server.kinds r.gvk = some kind)
    (hwf : r.toJson.WellFormed) (hdry : options.dryRun = false)
    (h : (applyOne defaultScope options kind r).outcome session memo = (.ok (stored, became), memo')) :
    ∃ c', Laid memo.server kind (r.submitted (targetScope defaultScope kind r) options.gcTag) stored c' ∧
      memo' = { memo with server := c' } := by
  obtain ⟨description, houtcome⟩ := outcome_applyOne options kind defaultScope r hkinds
  rw [houtcome, outcome_inContext_eq_ok] at h
  have hserved : KindInfo.find memo.server.kinds
      (r.submitted (targetScope defaultScope kind r) options.gcTag).gvk = some kind := by
    rw [Resource.gvk_submitted, hkind]
  cases hlook : memo.server.objects.get?
      (MemoryCluster.key kind (targetScope defaultScope kind r) r.name) with
  | none =>
    rw [hlook] at h
    exact laid_of_createMissing inPlace hserved hdry h
  | some live =>
    rw [hlook] at h
    obtain ⟨hfound, hplaced⟩ := key_target_eq inPlace hkind defaultScope options.gcTag hlook
    exact laid_of_patchExisting inPlace hserved
      (Resource.wellFormed_submitted (targetScope defaultScope kind r) options.gcTag hwf) hplaced hdry
      hfound h

end Program

end Reconcile
