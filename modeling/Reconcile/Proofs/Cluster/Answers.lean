import Reconcile.Proofs.Cluster.Change
import Reconcile.Proofs.Program.Reads

/-!
# How a cluster answers requests for changes

A request for a change either fails and leaves the cluster as it is, or does the one thing it is for:
an object is put in where none was, one takes the place of another, or one is taken away. These
lemmas say so of any cluster and any request, in whatever state the cluster is. All other requests
change no more than the count of what the cluster was asked about itself.
-/

namespace Reconcile.MemoryCluster

variable (c : MemoryCluster)

/-- The cluster after an object was put in under an identity. -/
def afterPut (id : Identity) (stored : Resource) (made : Nat) (calls : List String) : MemoryCluster :=
  { c with
    objects := c.objects.insert id stored, lastVersion := c.lastVersion + 1, madeUids := made
    calls := calls }

/-- The cluster after the object under an identity was taken away. -/
def afterErase (id : Identity) (calls : List String) : MemoryCluster :=
  { c with objects := c.objects.erase id, calls := calls }

variable {c} in
/-- Creating fails where something is or no version is left. Otherwise it puts in what is stored and writes
that down. -/
theorem create_cases (kind : KindInfo) (scope : Option String) (object : Resource) :
    (∃ e, c.create kind scope object = (.error e, c)) ∨
    (c.objects.get? (key kind scope object.name) = none ∧ c.versionsSpent = false ∧ ∃ uid made,
      let stored := (object.inScope (key kind scope object.name).scope).stampedWith uid (c.lastVersion + 1)
      (uid = (object.metadata.string? "uid").getD c.nextUid) ∧
      c.create kind scope object =
        (.ok stored, c.afterPut (key kind scope object.name) stored made
          (c.calls ++ [callText "create" kind (key kind scope object.name)]))) := by
  cases hlive : c.objects.get? (key kind scope object.name) with
  | some live =>
    refine .inl ⟨.alreadyExists (kind.plural ++ " " ++ Text.quoted object.name ++ " already exists"), ?_⟩
    rw [create, hlive]
  | none =>
    cases hspent : c.versionsSpent with
    | true =>
      refine .inl ⟨.other .overflow, ?_⟩
      rw [create, hlive]
      exact if_pos hspent
    | false =>
      obtain ⟨made, hstamp⟩ := stamp_eq c (object.inScope (key kind scope object.name).scope) none
      rw [Resource.string?_uid_inScope, Option.none_or] at hstamp
      refine .inr ⟨rfl, rfl, _, made, rfl, ?_⟩
      have hplaced : c.create kind scope object =
          let stamped := c.stamp none (object.inScope (key kind scope object.name).scope)
          (.ok stamped.1,
            { stamped.2 with
              objects := stamped.2.objects.insert (key kind scope object.name) stamped.1
              calls := stamped.2.calls ++ [callText "create" kind (key kind scope object.name)] }) := by
        rw [create, hlive]
        exact if_neg (by simp [hspent])
      rw [hplaced, hstamp]
      rfl

variable {c} in
/-- What comes out of a patch takes the place of what was there, while versions are left. -/
theorem patch_eq {kind : KindInfo} {scope : Option String} {name : String} {patch : Json}
    {current patched : Resource} (hleft : c.versionsSpent = false)
    (hcurrent : c.objects.get? (key kind scope name) = some current)
    (hpatched : Resource.ofJson (MergePatch.apply patch current.toJson) = .ok patched) :
    ∃ uid made,
      let stored := patched.stampedWith uid (c.lastVersion + 1)
      uid = (current.uid?.or (patched.metadata.string? "uid")).getD c.nextUid ∧
      c.patch kind scope name patch = (.ok stored, c.afterPut (key kind scope name) stored made
        (c.calls ++ [callText "patch" kind (key kind scope name)])) := by
  obtain ⟨made, hstamp⟩ := stamp_eq c patched current.uid?
  refine ⟨_, made, rfl, ?_⟩
  simp only [MemoryCluster.patch, hcurrent, hpatched, hleft, hstamp]
  rfl

variable {c} in
/-- Patching fails, or what comes out of the patch takes the place of what was there and is written down. -/
theorem patch_cases (kind : KindInfo) (scope : Option String) (name : String) (patch : Json) :
    (∃ e, c.patch kind scope name patch = (.error e, c)) ∨
    c.versionsSpent = false ∧ ∃ current patched uid made,
      let stored := patched.stampedWith uid (c.lastVersion + 1)
      c.objects.get? (key kind scope name) = some current ∧
      Resource.ofJson (MergePatch.apply patch current.toJson) = .ok patched ∧
      uid = (current.uid?.or (patched.metadata.string? "uid")).getD c.nextUid ∧
      c.patch kind scope name patch = (.ok stored, c.afterPut (key kind scope name) stored made
        (c.calls ++ [callText "patch" kind (key kind scope name)])) := by
  cases hlive : c.objects.get? (key kind scope name) with
  | none =>
    refine .inl ⟨missing kind name, ?_⟩
    rw [MemoryCluster.patch, hlive]
  | some current =>
    cases hpatched : Resource.ofJson (MergePatch.apply patch current.toJson) with
    | error e =>
      refine .inl ⟨.other (.model e), ?_⟩
      simp only [MemoryCluster.patch, hlive, hpatched]
    | ok patched =>
      cases hspent : c.versionsSpent with
      | true =>
        refine .inl ⟨.other .overflow, ?_⟩
        simp only [MemoryCluster.patch, hlive, hpatched, hspent]
        rfl
      | false =>
        obtain ⟨uid, made, huid, heq⟩ := patch_eq hspent hlive hpatched
        exact .inr ⟨rfl, current, patched, uid, made, rfl, hpatched, huid, heq⟩

/-- What a cluster writes down when it deletes an object. -/
def deletionText (kind : KindInfo) (id : Identity) (options : DeleteOptions) : String :=
  callText "delete" kind id ++ " (" ++ options.propagation.name ++ ")"

variable {c} in
/-- Deleting fails because the object is gone or another one, or takes away an object with the uid
that was asked for. -/
theorem delete_cases (kind : KindInfo) (scope : Option String) (name : String) (options : DeleteOptions) :
    (∃ e, (e.isNotFound || e.isConflict) = true ∧ c.delete kind scope name options = (.error e, c)) ∨
    ∃ current, c.objects.get? (key kind scope name) = some current ∧
      (∀ uid, options.uid = some uid → current.uid? = some uid) ∧
      c.delete kind scope name options = (.ok (), c.afterErase (key kind scope name)
        (c.calls ++ [deletionText kind (key kind scope name) options])) := by
  cases hlive : c.objects.get? (key kind scope name) with
  | none =>
    refine .inl ⟨missing kind name, rfl, ?_⟩
    rw [delete, hlive]
  | some current =>
    by_cases hother : (options.uid.isSome && current.uid? != options.uid) = true
    · refine .inl
        ⟨.conflict ("precondition failed: uid " ++ options.uid.getD "" ++ " does not match"), rfl, ?_⟩
      simp only [delete, hlive, if_pos hother]
    · refine .inr ⟨current, rfl, fun uid huid => ?_, ?_⟩
      · simpa [huid] using hother
      · simp only [delete, hlive, if_neg hother]
        rfl

variable {c} in
/-- Deleting puts nothing in and makes up no uid. -/
theorem keeps_of_delete (kind : KindInfo) (scope : Option String) (name : String) (options : DeleteOptions) :
    (c.delete kind scope name options).2.nextUid = c.nextUid ∧
      ∀ id object, (c.delete kind scope name options).2.objects.get? id = some object →
        c.objects.get? id = some object := by
  obtain ⟨e, -, h⟩ | ⟨current, -, -, h⟩ := delete_cases (c := c) kind scope name options
  · rw [h]
    exact ⟨rfl, fun _ _ => id⟩
  · rw [h]
    refine ⟨rfl, fun id object hobject => ?_⟩
    simp only [afterErase, Store.get?_erase] at hobject
    split at hobject
    · contradiction
    · exact hobject

/-- Seeding gives out one version at most. -/
theorem lastVersion_insert (object : Resource) :
    c.lastVersion.toNat ≤ (c.insert object).2.lastVersion.toNat ∧
      (c.insert object).2.lastVersion.toNat ≤ c.lastVersion.toNat + 1 := by
  cases hspent : c.versionsSpent with
  | true =>
    rw [insert, hspent]
    exact ⟨Nat.le_refl _, Nat.le_succ _⟩
  | false =>
    obtain ⟨made, hstamp⟩ := stamp_eq c object none
    have hnext : (c.insert object).2.lastVersion = c.lastVersion + 1 := by
      rw [insert, hspent, hstamp]
      rfl
    rw [hnext, toNat_nextVersion hspent]
    exact ⟨Nat.le_succ _, Nat.le_refl _⟩

/-- A cluster that was asked about itself some number of times. -/
def asked (count : Nat) (c : MemoryCluster) : MemoryCluster := { c with discoveries := count }

/-- Being asked changes no object. -/
theorem Sound.asked {c : MemoryCluster} (sound : c.Sound) (count : Nat) : (c.asked count).Sound :=
  ⟨sound.kinds, sound.rising, sound.fits, sound.distinct, sound.unrepeated, sound.fresh⟩

variable {c} in
/-- A request changes nothing unless it asks for a change and succeeds. -/
theorem asked_of_answer {r : Request}
    (h : r.isChange = true → (server.answer r c).1.isOk = false) :
    ∃ count, (server.answer r c).2 = c.asked count := by
  cases r with
  | version | kinds => exact ⟨c.discoveries + 1, rfl⟩
  | get | list => exact ⟨c.discoveries, rfl⟩
  | create kind scope object =>
    have hfailed : (c.create kind scope object).1.isOk = false := h rfl
    obtain ⟨e, hsame⟩ | ⟨-, -, uid, made, -, hdone⟩ := create_cases (c := c) kind scope object
    · exact ⟨c.discoveries, congrArg Prod.snd hsame⟩
    · rw [hdone] at hfailed
      contradiction
  | patch kind scope name patch =>
    have hfailed : (c.patch kind scope name patch).1.isOk = false := h rfl
    obtain ⟨e, hsame⟩ | ⟨-, current, patched, uid, made, -, -, -, hdone⟩ :=
      patch_cases (c := c) kind scope name patch
    · exact ⟨c.discoveries, congrArg Prod.snd hsame⟩
    · rw [hdone] at hfailed
      contradiction
  | delete kind scope name options =>
    have hfailed : (c.delete kind scope name options).1.isOk = false := h rfl
    obtain ⟨e, -, hsame⟩ | ⟨current, -, -, hdone⟩ := delete_cases (c := c) kind scope name options
    · exact ⟨c.discoveries, congrArg Prod.snd hsame⟩
    · rw [hdone] at hfailed
      contradiction

section Answered

/-- What a cluster stores when it is asked to create or patch an object. -/
def stored? (r : Request) : Option Resource :=
  match r with
  | .create kind scope object => (c.create kind scope object).1.toOption
  | .patch kind scope name patch => (c.patch kind scope name patch).1.toOption
  | _ => none

/-- What an answer makes of a cluster. -/
inductive Answered (r : Request) : MemoryCluster → Prop
  | same (count : Nat) (unstored : c.stored? r = none) : Answered r (c.asked count)
  | put {id : Identity} {object : Resource} {uid : String} {made : Nat} {calls : List String}
    (undeleting : r.isDeletion = false) (left : c.versionsSpent = false)
    (keeps : ∀ current own, c.objects.get? id = some current → current.uid? = some own → uid = own)
    (stored : c.stored? r = some (object.stampedWith uid (c.lastVersion + 1))) :
    Answered r (c.afterPut id (object.stampedWith uid (c.lastVersion + 1)) made calls)
  | erased {id : Identity} {calls : List String} (deleting : r.isDeletion = true)
    (unstored : c.stored? r = none) : Answered r (c.afterErase id calls)

/-- Every answer makes one of these. -/
theorem answered (r : Request) : c.Answered r (server.answer r c).2 := by
  cases r with
  | version | kinds => exact .same (c.discoveries + 1) rfl
  | get | list => exact .same c.discoveries rfl
  | create kind scope object =>
    show c.Answered _ (c.create kind scope object).2
    obtain ⟨e, h⟩ | ⟨hmissing, hleft, uid, made, -, h⟩ := create_cases (c := c) kind scope object
    · rw [h]
      exact .same c.discoveries (congrArg (·.1.toOption) h)
    · rw [h]
      refine .put rfl hleft (fun current own hcurrent => ?_) (congrArg (·.1.toOption) h)
      simp [hmissing] at hcurrent
  | patch kind scope name patch =>
    show c.Answered _ (c.patch kind scope name patch).2
    obtain ⟨e, h⟩ | ⟨hleft, current, patched, uid, made, hcurrent, -, huid, h⟩ :=
      patch_cases (c := c) kind scope name patch
    · rw [h]
      exact .same c.discoveries (congrArg (·.1.toOption) h)
    · rw [h]
      refine .put rfl hleft (fun live own hlive hown => ?_) (congrArg (·.1.toOption) h)
      obtain rfl : current = live := Option.some.inj (hcurrent.symm.trans hlive)
      rw [huid, hown, Option.some_or, Option.getD_some]
  | delete kind scope name options =>
    show c.Answered _ (c.delete kind scope name options).2
    obtain ⟨e, -, h⟩ | ⟨current, -, -, h⟩ := delete_cases (c := c) kind scope name options
    · rw [h]
      exact .same c.discoveries rfl
    · rw [h]
      exact .erased rfl rfl

namespace Answered

variable {c} {c' : MemoryCluster} {r : Request} (h : c.Answered r c')

include h

/-- What a cluster serves does not depend on what it is asked. -/
theorem kinds_eq : c'.kinds = c.kinds ∧ c'.forbidden = c.forbidden := by
  cases h <;> exact ⟨rfl, rfl⟩

/-- Versions are given out in order, one at a time. -/
theorem lastVersion_le : c.lastVersion.toNat ≤ c'.lastVersion.toNat ∧
    c'.lastVersion.toNat ≤ c.lastVersion.toNat + 1 := by
  cases h with
  | same | erased => exact ⟨Nat.le_refl _, Nat.le_succ _⟩
  | put undeleting left =>
    rw [afterPut, toNat_nextVersion left]
    exact ⟨Nat.le_succ _, Nat.le_refl _⟩

/-- What is created or patched is there, and has the next version. -/
theorem found_stored {stored : Resource} (hstored : c.stored? r = some stored) :
    (∃ id, c'.objects.get? id = some stored) ∧
      stored.resourceVersion? = some (toString (c.lastVersion.toNat + 1)) := by
  cases h with
  | same count unstored => simp [unstored] at hstored
  | put undeleting left keeps gives =>
    rw [gives, Option.some.injEq] at hstored
    subst hstored
    refine ⟨⟨_, by rw [afterPut, Store.get?_insert, if_pos rfl]⟩, ?_⟩
    rw [Resource.resourceVersion?_stampedWith, toString_version, toNat_nextVersion left]
  | erased deleting unstored => simp [unstored] at hstored

/-- What was there before and is there after keeps its uid. -/
theorem uid?_eq (keyed : c.Keyed) {id : Identity} {a b : Resource} (ha : c.objects.get? id = some a)
    (hb : c'.objects.get? id = some b) : b.uid? = a.uid? := by
  cases h with
  | same => exact congrArg _ (Option.some.inj (hb.symm.trans ha))
  | put undeleting left keeps =>
    rw [afterPut, Store.get?_insert] at hb
    split at hb
    next heq =>
      obtain ⟨own, hown⟩ := (keyed.fits id a ha).saved
      rw [← Option.some.inj hb, keeps a own (heq ▸ ha) hown, hown]
      exact Resource.uid?_stampedWith _ _ _ (Resource.uid?_ne_empty hown)
    next => exact congrArg _ (Option.some.inj (hb.symm.trans ha))
  | erased =>
    rw [afterErase, Store.get?_erase] at hb
    split at hb
    · contradiction
    · exact congrArg _ (Option.some.inj (hb.symm.trans ha))

/-- Only a deletion takes an object away. -/
theorem present (hundeleting : r.isDeletion = false) {id : Identity} {a : Resource}
    (ha : c.objects.get? id = some a) : ∃ b, c'.objects.get? id = some b := by
  cases h with
  | same => exact ⟨a, ha⟩
  | put =>
    rw [afterPut, Store.get?_insert]
    split
    · exact ⟨_, rfl⟩
    · exact ⟨a, ha⟩
  | erased deleting => exact absurd (hundeleting.symm.trans deleting) Bool.false_ne_true

end Answered

end Answered

end Reconcile.MemoryCluster
