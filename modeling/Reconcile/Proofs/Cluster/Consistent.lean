import Reconcile.Proofs.Cluster.Answers

/-!
# Consistent stores

The store of a cluster is consistent when the cluster is sound, serves the kinds of all its objects, and
has given each object a resource version of its own, none of them later than the last one given out. The
lemmas here say how each way of changing a cluster keeps its store consistent; whether a request that is
asked for is one of these is up to who asks.
-/

namespace Reconcile

/-- Different numbers have different digits. -/
theorem toString_nat_injective {m n : Nat} (h : (toString m : String) = toString n) : m = n := by
  rw [Nat.toString_eq_ofList_toDigits, Nat.toString_eq_ofList_toDigits] at h
  have hread := congrArg (Nat.ofDigitChars 10 · 0) (String.ofList_inj.mp h)
  simpa only [Nat.ofDigitChars_ten_toDigits] using hread

namespace MemoryCluster

/-- What holds of the store of a cluster however it was used. -/
structure Consistent (c : MemoryCluster) : Prop where
  sound : c.Sound
  served : ∀ id object, c.objects.get? id = some object →
    ∃ kind, KindInfo.find c.kinds object.gvk = some kind
  versioned : ∀ id object, c.objects.get? id = some object →
    ∃ n ≤ c.lastVersion.toNat, object.resourceVersion? = some (toString n)
  apart : ∀ id other a b, c.objects.get? id = some a → c.objects.get? other = some b →
    a.resourceVersion? = b.resourceVersion? → id = other

variable {c : MemoryCluster} {kind : KindInfo} {id : Identity} {object stored live : Resource} {made : Nat}

/-- The store of a cluster without objects is consistent if its source never makes the same uid twice. -/
theorem consistent_emptyWith {uids : Nat → {text : String // text ≠ ""}}
    (unrepeated : Function.Injective uids) {kinds : List KindInfo} (h : (kinds.map (·.gvk)).Nodup)
    (version : ServerVersion) : (emptyWith uids kinds version).Consistent where
  sound := sound_emptyWith unrepeated h version
  served := by simp
  versioned := by simp
  apart := by simp

namespace Consistent

variable (h : c.Consistent)

include h

/-- Asking a cluster about itself leaves its store consistent. -/
theorem asked (count : Nat) : (c.asked count).Consistent :=
  ⟨h.sound.asked count, h.served, h.versioned, h.apart⟩

/-- A store stays consistent when an object is put where it belongs with the next version, unless it takes
the uid of another. -/
theorem put (hfits : Fits c.kinds id stored) (hkind : KindInfo.find c.kinds stored.gvk = some kind)
    (hleft : c.versionsSpent = false)
    (hversion : stored.resourceVersion? = some (toString (c.lastVersion + 1)))
    (hown : ∀ other a, c.objects.get? other = some a → a.uid? = stored.uid? → other = id)
    (hmade : c.madeUids ≤ made) (hfresh : ∀ n, made < n → stored.uid? ≠ some (c.uids n).val)
    (calls : List String) : (c.afterPut id stored made calls).Consistent where
  sound := h.sound.put hfits hown hmade hfresh
  served := by
    intro other a ha
    rw [afterPut, Store.get?_insert] at ha
    split at ha
    · exact Option.some.inj ha ▸ ⟨kind, hkind⟩
    · exact h.served other a ha
  versioned := by
    intro other a ha
    rw [afterPut, Store.get?_insert] at ha
    split at ha
    · exact Option.some.inj ha ▸ ⟨_, Nat.le_refl _, hversion⟩
    · obtain ⟨n, hn, hsame⟩ := h.versioned other a ha
      refine ⟨n, ?_, hsame⟩
      rw [afterPut, toNat_nextVersion hleft]
      exact Nat.le_succ_of_le hn
  apart := by
    -- the version of what is put in is later than all others
    have hlater : ∀ other a, c.objects.get? other = some a → a.resourceVersion? ≠ stored.resourceVersion? := by
      intro other a ha hsame
      obtain ⟨n, hn, hver⟩ := h.versioned other a ha
      rw [hver, hversion, Option.some.injEq, toString_version, toNat_nextVersion hleft] at hsame
      have := toString_nat_injective hsame
      omega
    intro first second a b ha hb hsame
    rw [afterPut, Store.get?_insert] at ha hb
    by_cases hfirst : id = first <;> by_cases hsecond : id = second
    · exact hfirst.symm.trans hsecond
    · rw [if_pos hfirst, Option.some.injEq] at ha
      rw [if_neg hsecond] at hb
      exact absurd (hsame.symm.trans (congrArg _ ha.symm)) (hlater second b hb)
    · rw [if_neg hfirst] at ha
      rw [if_pos hsecond, Option.some.injEq] at hb
      exact absurd (hsame.trans (congrArg _ hb.symm)) (hlater first a ha)
    · rw [if_neg hfirst] at ha
      rw [if_neg hsecond] at hb
      exact h.apart first second a b ha hb hsame

/-- A store stays consistent when an object is put where it belongs with a new uid and the next version. -/
theorem putNew (hfits : Fits c.kinds id (object.stampedWith c.nextUid (c.lastVersion + 1)))
    (hkind : KindInfo.find c.kinds object.gvk = some kind) (hleft : c.versionsSpent = false)
    (calls : List String) :
    (c.afterPut id (object.stampedWith c.nextUid (c.lastVersion + 1)) (c.madeUids + 1) calls).Consistent := by
  have huid : (object.stampedWith c.nextUid (c.lastVersion + 1)).uid? = some c.nextUid :=
    Resource.uid?_stampedWith _ _ _ c.nextUid_ne_empty
  refine h.put hfits (by rw [Resource.gvk_stampedWith, hkind]) hleft (Resource.resourceVersion?_stampedWith _ _ _)
    (fun other a ha hsame => absurd (hsame.trans huid) (h.sound.uid?_ne_new ha)) (Nat.le_succ _)
    (fun n hn hsame => ?_) calls
  rw [huid, Option.some.injEq] at hsame
  exact h.sound.nextUid_ne hn hsame

/-- Taking objects away keeps a store consistent. -/
theorem erase (id : Identity) (calls : List String) : (c.afterErase id calls).Consistent := by
  have hkept : ∀ other a, (c.afterErase id calls).objects.get? other = some a →
      c.objects.get? other = some a := by
    intro other a ha
    rw [afterErase, Store.get?_erase] at ha
    split at ha
    · contradiction
    · exact ha
  refine ⟨?_, fun other a ha => h.served other a (hkept other a ha),
    fun other a ha => h.versioned other a (hkept other a ha),
    fun first second a b ha hb => h.apart first second a b (hkept first a ha) (hkept second b hb)⟩
  rw [afterErase, Store.erase_eq_filter]
  exact h.sound.keepOnly _ calls

/-- Seeding an object of a served kind, which names a namespace exactly when the kind has them, keeps a
store consistent. So it does when no version is left and the object stays out. -/
theorem insert (hwf : object.toJson.WellFormed) (hunsaved : object.metadata.string? "uid" = none)
    (hkind : KindInfo.find c.kinds object.gvk = some kind)
    (hscope : object.scope?.isSome = kind.isNamespaced) : (c.insert object).2.Consistent := by
  by_cases hspent : c.versionsSpent = true
  · rw [MemoryCluster.insert, hspent]
    exact h
  rw [Bool.not_eq_true] at hspent
  have hkey : object.identity = keyOf kind object := by
    rw [keyOf, key, KindInfo.gvk_of_find hkind, ← hscope, Resource.identity]
    cases object.scope? <;> rfl
  have hinsert : (c.insert object).2 = c.afterPut (keyOf kind object)
      (object.stampedWith c.nextUid (c.lastVersion + 1)) (c.madeUids + 1) c.calls := by
    rw [MemoryCluster.insert, hspent, stamp_of_unsaved c object hunsaved]
    dsimp only [Bool.false_eq_true, if_false]
    rw [Resource.identity, Resource.gvk_stampedWith, Resource.scope?_stampedWith, Resource.name_stampedWith,
      ← Resource.identity, hkey]
    rfl
  have hsits : Sits c.kinds (keyOf kind object)
      (object.stampedWith c.nextUid (c.lastVersion + 1)) :=
    sits_of_keyOf_eq hkind (by simp) (by simp [keyOf])
  rw [hinsert]
  exact h.putNew ⟨hsits.gvk, hsits.place, ⟨_, Resource.uid?_stampedWith _ _ _ c.nextUid_ne_empty⟩,
    Resource.wellFormed_stampedWith _ _ _ hwf⟩ hkind hspent c.calls

/-- So does creating an object of a served kind, whether or not it is there. -/
theorem create (hwf : object.toJson.WellFormed) (hunsaved : object.metadata.string? "uid" = none)
    (hkind : KindInfo.find c.kinds object.gvk = some kind) :
    (c.create kind object.scope? object).2.Consistent := by
  obtain ⟨e, hsame⟩ | ⟨hlive, hleft, -⟩ := create_cases (c := c) kind object.scope? object
  · rw [hsame]
    exact h
  · rw [create_of_missing c hleft hunsaved hlive]
    exact h.putNew (fits_createdFor hkind hwf) (by rw [Resource.gvk_inScope, hkind]) hleft _

/-- So does deleting. -/
theorem delete (kind : KindInfo) (scope : Option String) (name : String) (options : DeleteOptions) :
    (c.delete kind scope name options).2.Consistent := by
  obtain ⟨e, -, hsame⟩ | ⟨current, -, -, hdone⟩ := delete_cases (c := c) kind scope name options
  · rw [hsame]
    exact h
  · rw [hdone]
    exact h.erase _ _

variable [Compression]

/-- So does bringing an object that is there into line. -/
theorem patch (hwf : object.toJson.WellFormed) (hkind : KindInfo.find c.kinds object.gvk = some kind)
    (hplaced : kind.isNamespaced = true → ∃ ns, object.scope? = some ns)
    (hlive : c.objects.get? (keyOf kind object) = some live) :
    (c.patch kind object.scope? object.name (object.patchTo live)).2.Consistent := by
  obtain ⟨e, hsame⟩ | ⟨hleft, -⟩ :=
    patch_cases (c := c) kind object.scope? object.name (object.patchTo live)
  · rw [hsame]
    exact h
  obtain ⟨uid, huid⟩ := (h.sound.fits _ live hlive).saved
  have hne : uid ≠ "" := Resource.uid?_ne_empty huid
  rw [patch_of_present c hleft hlive huid (Resource.ofJson_apply_patchTo hwf live)]
  have hstored (patched : Resource) (version : UInt64) :
      (patched.stampedWith uid version).uid? = live.uid? :=
    (Resource.uid?_stampedWith _ _ _ hne).trans huid.symm
  refine h.put (fits_patched hkind hwf hplaced (h.sound.fits _ live hlive).wellFormed hne _ _)
    (by rw [Resource.gvk_stampedWith, Resource.gvk_patched, hkind]) hleft
    (Resource.resourceVersion?_stampedWith _ _ _) (fun other a ha hsame => ?_) (Nat.le_refl _)
    (fun n hn => ?_) _
  · exact h.sound.distinct other _ a live ha hlive (hsame.trans (hstored _ _))
  · rw [hstored]
    exact h.sound.fresh n hn _ live hlive

end Consistent

end MemoryCluster

end Reconcile
