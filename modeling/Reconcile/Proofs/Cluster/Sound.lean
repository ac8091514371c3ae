import Reconcile.Proofs.Cluster.Stamp
import Reconcile.Proofs.Cluster.Store
import Reconcile.Proofs.Command.Target

/-!
# Sound clusters

A cluster in memory is sound when it knows each object by its kind, by its namespace if the kind is
namespaced and by its name, and when every object has a uid that no other object has, nor any that
is made up later; for that its source never makes the same uid twice. `Sound.put` and `Sound.keepOnly`
are the two ways in which requests change a cluster, and both keep it sound.
-/

namespace Reconcile

/-- Where no kind is served twice, a kind that is served is found. -/
theorem KindInfo.find_of_mem {kinds : List KindInfo} (h : (kinds.map (·.gvk)).Nodup) {kind : KindInfo}
    (hmem : kind ∈ kinds) : KindInfo.find kinds kind.gvk = some kind := by
  induction kinds with
  | nil => simp at hmem
  | cons first rest ih =>
    rw [List.map_cons, List.nodup_cons] at h
    rw [KindInfo.find, List.find?_cons]
    rcases List.mem_cons.mp hmem with rfl | hrest
    · simp
    · have hne : first.gvk ≠ kind.gvk := fun heq => h.1 (heq ▸ List.mem_map_of_mem hrest)
      rw [beq_false_of_ne hne]
      exact ih h.2 hrest

namespace MemoryCluster

/-- The identity by which a cluster knows an object of a kind. -/
def keyOf (kind : KindInfo) (object : Resource) : Identity := key kind object.scope? object.name

/-- An object is stored where a cluster that serves these kinds looks for it, and it is complete. -/
structure Fits (kinds : List KindInfo) (id : Identity) (object : Resource) : Prop where
  gvk : object.gvk = id.gvk
  place : ∀ kind, KindInfo.find kinds object.gvk = some kind → id = keyOf kind object
  saved : ∃ uid, object.uid? = some uid
  wellFormed : object.toJson.WellFormed

/-- An object is stored where a cluster that serves these kinds looks for it. -/
structure Sits (kinds : List KindInfo) (id : Identity) (object : Resource) : Prop where
  gvk : object.gvk = id.gvk
  place : ∀ kind, KindInfo.find kinds object.gvk = some kind → id = keyOf kind object

/-- What fits a place sits there. -/
theorem Fits.sits {kinds : List KindInfo} {id : Identity} {object : Resource} (h : Fits kinds id object) :
    Sits kinds id object := ⟨h.gvk, h.place⟩

/-- What is stored in the place of an object sits there if kind, namespace and name are the same. -/
theorem sits_of_keyOf_eq {kinds : List KindInfo} {kind : KindInfo} {object stored : Resource}
    (hkind : KindInfo.find kinds object.gvk = some kind) (hgvk : stored.gvk = object.gvk)
    (hkey : keyOf kind stored = keyOf kind object) : Sits kinds (keyOf kind object) stored where
  gvk := by rw [hgvk, keyOf, key, KindInfo.gvk_of_find hkind]
  place := by
    intro other hother
    rw [hgvk, hkind] at hother
    exact Option.some.inj hother ▸ hkey.symm

/-- A cluster knows every object by its kind, its namespace and its name, and each has a uid. -/
structure Keyed (c : MemoryCluster) : Prop where
  /-- Each identity occurs once. -/
  rising : c.objects.Rising
  fits : ∀ id object, c.objects.get? id = some object → Fits c.kinds id object

/-- A cluster knows every object by its kind, its namespace and its name. -/
structure InPlace (c : MemoryCluster) : Prop where
  /-- Each identity occurs once. -/
  rising : c.objects.Rising
  sits : ∀ id object, c.objects.get? id = some object → Sits c.kinds id object

/-- The empty namespace holds no objects. -/
theorem InPlace.get?_empty_scope {c : MemoryCluster} (inPlace : c.InPlace) {kind : KindInfo}
    (hkind : KindInfo.find c.kinds kind.gvk = some kind) (hlives : kind.scope = .namespaced)
    (name : String) : c.objects.get? (key kind (some "") name) = none := by
  cases hobject : c.objects.get? (key kind (some "") name) with
  | none => rfl
  | some object =>
    have hsits := inPlace.sits _ object hobject
    have hgvk : object.gvk = kind.gvk := hsits.gvk
    have hplace := congrArg Identity.scope (hsits.place kind (hgvk ▸ hkind))
    simp only [keyOf, key, KindInfo.isNamespaced, hlives, beq_self_eq_true, if_true] at hplace
    exact absurd hplace.symm (Resource.scope?_ne_empty object)

/-- Where objects are known by kind, namespace and name, each is in its place. -/
theorem Keyed.inPlace {c : MemoryCluster} (keyed : c.Keyed) : c.InPlace :=
  ⟨keyed.rising, fun id object h => (keyed.fits id object h).sits⟩

/-- What holds of a cluster however it came to be. -/
structure Sound (c : MemoryCluster) : Prop where
  /-- No kind is served twice. -/
  kinds : (c.kinds.map (·.gvk)).Nodup
  /-- Each identity occurs once. -/
  rising : c.objects.Rising
  fits : ∀ id object, c.objects.get? id = some object → Fits c.kinds id object
  /-- No two objects have the same uid. -/
  distinct : ∀ id other a b, c.objects.get? id = some a → c.objects.get? other = some b →
    a.uid? = b.uid? → id = other
  /-- No uid is made up twice. -/
  unrepeated : Function.Injective c.uids
  /-- A uid that is made up is new. -/
  fresh : ∀ n, c.madeUids < n → ∀ id object, c.objects.get? id = some object →
    object.uid? ≠ some (c.uids n).val

namespace Keyed

variable {c : MemoryCluster}

/-- Only the kinds and the objects count. -/
theorem congr {c' : MemoryCluster} (h : c.Keyed) (hkinds : c'.kinds = c.kinds)
    (hobjects : c'.objects = c.objects) : c'.Keyed := by
  refine ⟨hobjects ▸ h.rising, fun id object hobject => ?_⟩
  rw [hkinds]
  exact h.fits id object (hobjects ▸ hobject)

/-- What is left of a keyed cluster is keyed. -/
theorem erase (h : c.Keyed) (id : Identity) (calls : List String) :
    Keyed { c with objects := c.objects.erase id, calls := calls } where
  rising := by
    rw [Store.erase_eq_filter]
    exact h.rising.filter _
  fits := by
    intro other object hobject
    rw [Store.get?_erase] at hobject
    split at hobject
    · simp at hobject
    · exact h.fits other object hobject

/-- A keyed cluster stays keyed when an object is put where it belongs. -/
theorem put (h : c.Keyed) {id : Identity} {object : Resource} (hfits : Fits c.kinds id object)
    {version : UInt64} {made : Nat} {calls : List String} :
    Keyed { c with
      objects := c.objects.insert id object, lastVersion := version, madeUids := made
      calls := calls } where
  rising := h.rising.insert id object
  fits := by
    intro other a ha
    rw [Store.get?_insert] at ha
    split at ha
    next heq =>
      subst heq
      exact Option.some.inj ha ▸ hfits
    next => exact h.fits other a ha

end Keyed

/-- A sound cluster knows its objects by kind, namespace and name. -/
theorem Sound.keyed {c : MemoryCluster} (sound : c.Sound) : c.Keyed := ⟨sound.rising, sound.fits⟩

/-- A cluster without objects has none. -/
@[simp] theorem objects_emptyWith (uids : Nat → {text : String // text ≠ ""}) (kinds : List KindInfo)
    (version : ServerVersion) : (emptyWith uids kinds version).objects = [] := rfl

/-- A cluster without objects is sound if its source never makes the same uid twice. -/
theorem sound_emptyWith {uids : Nat → {text : String // text ≠ ""}} (unrepeated : Function.Injective uids)
    {kinds : List KindInfo} (h : (kinds.map (·.gvk)).Nodup) (version : ServerVersion) :
    (emptyWith uids kinds version).Sound where
  kinds := h
  rising := .nil
  fits := by simp
  distinct := by simp
  unrepeated := unrepeated
  fresh := by simp

/-- So is one that counts its uids. -/
theorem sound_empty {kinds : List KindInfo} (h : (kinds.map (·.gvk)).Nodup) (version : ServerVersion) :
    (empty kinds version).Sound := sound_emptyWith countedUids_injective h version

namespace Sound

variable {c : MemoryCluster} (sound : c.Sound)

include sound

/-- A kind that is served is found. -/
theorem find_of_mem {kind : KindInfo} (h : kind ∈ c.kinds) :
    KindInfo.find c.kinds kind.gvk = some kind := KindInfo.find_of_mem sound.kinds h

/-- The entries of a sound cluster are what is found under their identities. -/
theorem mem_iff {id : Identity} {object : Resource} :
    (id, object) ∈ c.objects ↔ c.objects.get? id = some object := Store.mem_iff_get? sound.rising

/-- A sound cluster stays sound when an object is put where it belongs, unless it takes the uid of
another. -/
theorem put {id : Identity} {object : Resource} {version : UInt64} {made : Nat} {calls : List String}
    (hfits : Fits c.kinds id object)
    (hown : ∀ other a, c.objects.get? other = some a → a.uid? = object.uid? → other = id)
    (hmade : c.madeUids ≤ made) (hfresh : ∀ n, made < n → object.uid? ≠ some (c.uids n).val) :
    Sound { c with
      objects := c.objects.insert id object, lastVersion := version, madeUids := made
      calls := calls } where
  kinds := sound.kinds
  rising := sound.rising.insert id object
  fits := by
    intro other a h
    rw [Store.get?_insert] at h
    split at h
    next heq =>
      subst heq
      exact Option.some.inj h ▸ hfits
    next => exact sound.fits other a h
  distinct := by
    intro first second a b ha hb huid
    rw [Store.get?_insert] at ha hb
    by_cases hfirst : id = first <;> by_cases hsecond : id = second
    · exact hfirst.symm.trans hsecond
    · rw [if_pos hfirst, Option.some.injEq] at ha
      rw [if_neg hsecond] at hb
      subst ha
      exact hfirst.symm.trans (hown second b hb huid.symm).symm
    · rw [if_neg hfirst] at ha
      rw [if_pos hsecond, Option.some.injEq] at hb
      subst hb
      exact (hown first a ha huid).trans hsecond
    · rw [if_neg hfirst] at ha
      rw [if_neg hsecond] at hb
      exact sound.distinct first second a b ha hb huid
  unrepeated := sound.unrepeated
  fresh := by
    intro n hn other a h
    rw [Store.get?_insert] at h
    split at h
    · exact Option.some.inj h ▸ hfresh n hn
    · exact sound.fresh n (by simp only at hn; omega) other a h

/-- The uid that is made up next is not made up again. -/
theorem nextUid_ne {n : Nat} (hn : c.madeUids + 1 < n) : c.nextUid ≠ c.uids n := fun hsame =>
  Nat.ne_of_lt hn (sound.unrepeated (Subtype.ext hsame))

/-- A sound cluster stays sound when objects are taken away. -/
theorem keepOnly (keep : Identity × Resource → Bool) (calls : List String) :
    Sound { c with objects := c.objects.filter keep, calls := calls } where
  kinds := sound.kinds
  rising := sound.rising.filter keep
  fits := by
    intro id object h
    exact sound.fits id object ((Store.get?_filter sound.rising keep).mp h).1
  distinct := by
    intro id other a b ha hb
    exact sound.distinct id other a b ((Store.get?_filter sound.rising keep).mp ha).1
      ((Store.get?_filter sound.rising keep).mp hb).1
  unrepeated := sound.unrepeated
  fresh := by
    intro n hn id object h
    exact sound.fresh n hn id object ((Store.get?_filter sound.rising keep).mp h).1

end Sound

end MemoryCluster

end Reconcile
