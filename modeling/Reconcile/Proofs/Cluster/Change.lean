import Reconcile.Proofs.Cluster.Sound
import Reconcile.Proofs.Resource.Patched

/-!
# Creating and patching in a sound cluster

Creating an object and patching one put an object where it belongs, so both keep a cluster sound.
A created object gets a new uid, a patched one keeps the uid that it had.
-/

namespace Reconcile

namespace Resource

/-- The object in the namespace under which the cluster knows it. -/
def inScope (scope : Option String) (object : Resource) : Resource :=
  match scope with
  | some ns => object.setScope ns
  | none => object

variable (scope : Option String) (object : Resource)

/-- An object that is put into a namespace stays of its kind. -/
@[simp] theorem gvk_inScope : (object.inScope scope).gvk = object.gvk := by cases scope <;> simp [inScope]

/-- It keeps its name. -/
@[simp] theorem name_inScope : (object.inScope scope).name = object.name := by
  cases scope <;> simp [inScope]

/-- An object stays in the namespace that it names. -/
theorem scope?_inScope_self : (object.inScope object.scope?).scope? = object.scope? := by
  cases hscope : object.scope? with
  | none => rw [inScope, hscope]
  | some ns =>
    have hne : ns ≠ "" := fun hempty => scope?_ne_empty object (hempty ▸ hscope)
    rw [inScope, scope?_setScope]
    simp [hne]

/-- An object that is put into a namespace keeps its uid. -/
theorem string?_uid_inScope :
    (object.inScope scope).metadata.string? "uid" = object.metadata.string? "uid" := by
  cases scope with
  | none => rfl
  | some ns => rw [inScope, setScope, metadata_setMeta, Fields.string?_insert, if_neg (by decide)]

/-- It stays well formed. -/
theorem wellFormed_inScope (h : object.toJson.WellFormed) : (object.inScope scope).toJson.WellFormed := by
  cases scope with
  | none => exact h
  | some ns => exact wellFormed_setScope h ns

end Resource

namespace MemoryCluster

variable (c : MemoryCluster)

/-- The namespace counts where the kind has one. -/
theorem key_congr {kind : KindInfo} {a b : Option String} {name : String}
    (h : kind.isNamespaced = true → a = b) : key kind a name = key kind b name := by
  rw [key, key]
  cases hlives : kind.isNamespaced with
  | true => rw [h hlives]
  | false => rfl

/-- What is stored for an object that is created. -/
def createdFor (kind : KindInfo) (object : Resource) : Resource :=
  (object.inScope (keyOf kind object).scope).stampedWith c.nextUid (c.lastVersion + 1)

/-- The cluster after an object was created. -/
def afterCreate (kind : KindInfo) (object : Resource) : MemoryCluster :=
  { c with
    objects := c.objects.insert (keyOf kind object) (c.createdFor kind object)
    lastVersion := c.lastVersion + 1, madeUids := c.madeUids + 1
    calls := c.calls ++ [callText "create" kind (keyOf kind object)] }

/-- The cluster after an object was patched. -/
def afterPatch (kind : KindInfo) (object stored : Resource) : MemoryCluster :=
  { c with
    objects := c.objects.insert (keyOf kind object) stored
    lastVersion := c.lastVersion + 1
    calls := c.calls ++ [callText "patch" kind (keyOf kind object)] }

/-- Whether an object can be created depends on what is stored in its place, and then on whether a
version is left. -/
theorem create_eq (kind : KindInfo) (object : Resource) :
    c.create kind object.scope? object =
      match c.objects.get? (keyOf kind object) with
      | some _ =>
        (.error (.alreadyExists (kind.plural ++ " " ++ Text.quoted object.name ++ " already exists")), c)
      | none =>
        if c.versionsSpent then (.error (.other .overflow), c)
        else
          let stamped := c.stamp none (object.inScope (keyOf kind object).scope)
          (.ok stamped.1,
            { stamped.2 with
              objects := stamped.2.objects.insert (keyOf kind object) stamped.1
              calls := stamped.2.calls ++ [callText "create" kind (keyOf kind object)] }) := by
  rw [create, ← keyOf]
  cases c.objects.get? (keyOf kind object) <;> rfl

/-- An object that is not there is created while versions are left. -/
theorem create_of_missing {kind : KindInfo} {object : Resource} (hleft : c.versionsSpent = false)
    (hunsaved : object.metadata.string? "uid" = none)
    (h : c.objects.get? (keyOf kind object) = none) :
    c.create kind object.scope? object = (.ok (c.createdFor kind object), c.afterCreate kind object) := by
  have hstamp := stamp_of_unsaved c (object.inScope (keyOf kind object).scope)
    ((Resource.string?_uid_inScope _ object).trans hunsaved)
  rw [create_eq, h]
  dsimp only
  rw [hleft, hstamp, afterCreate, createdFor]
  rfl

/-- An object that was created was not there, and versions were left. -/
theorem missing_of_create {kind : KindInfo} {object stored : Resource} {c' : MemoryCluster}
    (h : c.create kind object.scope? object = (.ok stored, c')) :
    c.objects.get? (keyOf kind object) = none ∧ c.versionsSpent = false := by
  rw [create_eq] at h
  cases hlive : c.objects.get? (keyOf kind object) with
  | none =>
    cases hspent : c.versionsSpent with
    | false => exact ⟨rfl, rfl⟩
    | true => simp [hlive, hspent] at h
  | some live => simp [hlive] at h

/-- An object that is there is patched while versions are left, and keeps its uid. -/
theorem patch_of_present {kind : KindInfo} {object live patched : Resource} {patch : Json} {uid : String}
    (hleft : c.versionsSpent = false) (h : c.objects.get? (keyOf kind object) = some live)
    (huid : live.uid? = some uid)
    (hpatched : Resource.ofJson (MergePatch.apply patch live.toJson) = .ok patched) :
    c.patch kind object.scope? object.name patch =
      (.ok (patched.stampedWith uid (c.lastVersion + 1)),
        c.afterPatch kind object (patched.stampedWith uid (c.lastVersion + 1))) := by
  rw [keyOf] at h
  simp only [MemoryCluster.patch, h, hpatched, huid, hleft, stamp_of_uid]
  rfl

/-- Once the versions are spent it is not. -/
theorem patch_of_versionsSpent {kind : KindInfo} {object live patched : Resource} {patch : Json}
    (hspent : c.versionsSpent = true) (h : c.objects.get? (keyOf kind object) = some live)
    (hpatched : Resource.ofJson (MergePatch.apply patch live.toJson) = .ok patched) :
    c.patch kind object.scope? object.name patch = (.error (.other .overflow), c) := by
  rw [keyOf] at h
  simp only [MemoryCluster.patch, h, hpatched, hspent]
  rfl

variable {c} {kind : KindInfo} {object : Resource}

/-- What is stored for an object that is created has its place. -/
theorem keyOf_created (kind : KindInfo) (object : Resource) (uid : String) (version : UInt64) :
    keyOf kind ((object.inScope (keyOf kind object).scope).stampedWith uid version) = keyOf kind object := by
  rw [keyOf, keyOf, Resource.scope?_stampedWith, Resource.name_stampedWith, Resource.name_inScope]
  refine key_congr fun hlives => ?_
  rw [key, hlives, if_pos rfl, Resource.scope?_inScope_self]

/-- What is stored for an object that is patched has its place. -/
theorem keyOf_patched (hwf : object.toJson.WellFormed)
    (hplaced : kind.isNamespaced = true → ∃ ns, object.scope? = some ns) (last : Fields) (live : Resource)
    (uid : String) (version : UInt64) :
    keyOf kind ((Resource.patched hwf last live).stampedWith uid version) = keyOf kind object := by
  rw [keyOf, keyOf, Resource.scope?_stampedWith, Resource.name_stampedWith, Resource.name_patched]
  refine key_congr fun hlives => ?_
  obtain ⟨ns, hscope⟩ := hplaced hlives
  rw [hscope]
  exact Resource.metaText?_patched hwf last live hscope

/-- What is stored for an object that is created fits its place. -/
theorem fits_createdFor {object : Resource} (hkind : KindInfo.find c.kinds object.gvk = some kind)
    (hwf : object.toJson.WellFormed) :
    Fits c.kinds (keyOf kind object) (c.createdFor kind object) := by
  have hsits : Sits c.kinds (keyOf kind object) (c.createdFor kind object) :=
    sits_of_keyOf_eq hkind (by simp [createdFor]) (keyOf_created kind object _ _)
  exact ⟨hsits.gvk, hsits.place, ⟨_, Resource.uid?_stampedWith _ _ _ c.nextUid_ne_empty⟩,
    Resource.wellFormed_stampedWith _ _ _ (Resource.wellFormed_inScope _ _ hwf)⟩

/-- What is stored for an object that is patched fits its place. -/
theorem fits_patched {object live : Resource} {uid : String}
    (hkind : KindInfo.find c.kinds object.gvk = some kind)
    (hwf : object.toJson.WellFormed)
    (hplaced : kind.isNamespaced = true → ∃ ns, object.scope? = some ns)
    (hlive : live.toJson.WellFormed) (huid : uid ≠ "") (last : Fields) (version : UInt64) :
    Fits c.kinds (keyOf kind object)
      ((Resource.patched hwf last live).stampedWith uid version) := by
  have hsits : Sits c.kinds (keyOf kind object) ((Resource.patched hwf last live).stampedWith uid version) :=
    sits_of_keyOf_eq hkind (by simp) (keyOf_patched hwf hplaced last live uid version)
  exact ⟨hsits.gvk, hsits.place, ⟨_, Resource.uid?_stampedWith _ _ _ huid⟩,
    Resource.wellFormed_stampedWith _ _ _ (Resource.wellFormed_patched hwf last live hlive)⟩

namespace Sound

variable (sound : c.Sound)

include sound

/-- A uid that was made up just now belongs to no other object. -/
theorem uid?_ne_new {id : Identity} {a : Resource} (h : c.objects.get? id = some a) :
    a.uid? ≠ some c.nextUid := sound.fresh _ (Nat.lt_succ_self _) id a h

/-- Creating an object keeps a cluster sound. -/
theorem create {object : Resource} (hkind : KindInfo.find c.kinds object.gvk = some kind)
    (hwf : object.toJson.WellFormed) : (c.afterCreate kind object).Sound := by
  have huid : (c.createdFor kind object).uid? = some c.nextUid :=
    Resource.uid?_stampedWith _ _ _ c.nextUid_ne_empty
  refine sound.put (fits_createdFor hkind hwf) ?_ (Nat.le_succ _) ?_
  · intro other a ha hsame
    exact absurd (hsame.trans huid) (sound.uid?_ne_new ha)
  · intro n hn hsame
    rw [huid, Option.some.injEq] at hsame
    exact sound.nextUid_ne hn hsame

/-- Patching an object keeps a cluster sound. -/
theorem patch {object live : Resource} {uid : String}
    (hkind : KindInfo.find c.kinds object.gvk = some kind) (hwf : object.toJson.WellFormed)
    (hplaced : kind.isNamespaced = true → ∃ ns, object.scope? = some ns)
    (hlive : c.objects.get? (keyOf kind object) = some live)
    (huid : live.uid? = some uid) (last : Fields) :
    (c.afterPatch kind object
      ((Resource.patched hwf last live).stampedWith uid (c.lastVersion + 1))).Sound := by
  have hne : uid ≠ "" := Resource.uid?_ne_empty huid
  have hstored : ((Resource.patched hwf last live).stampedWith uid (c.lastVersion + 1)).uid? = some uid :=
    Resource.uid?_stampedWith _ _ _ hne
  refine sound.put
    (fits_patched hkind hwf hplaced (sound.fits _ live hlive).wellFormed hne last _) ?_ (Nat.le_refl _) ?_
  · intro other a ha hsame
    exact sound.distinct other _ a live ha hlive (hsame.trans (hstored.trans huid.symm))
  · intro n hn
    rw [hstored, ← huid]
    exact sound.fresh n hn _ live hlive

end Sound

end MemoryCluster

end Reconcile
