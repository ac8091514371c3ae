import Reconcile.Proofs.Cluster.Stamped
import Reconcile.Proofs.Command.Collect
import Reconcile.Proofs.Program.Moments
import Reconcile.Proofs.Program.Reads

/-!
# Bringing one object onto a server that others change

Between fetching an object and patching or creating it other clients may do anything to it. An update
decides by what it fetched, but a patch says nothing about what it does not name, and creating fails
where an object is. So `Program.applyOne_among_others`: one object costs at most one change, a patch
keeps what others wrote beside it, and an object that appears in the meantime is left alone.
-/

namespace Reconcile

open MemoryCluster (key)
open MergePatch (leaves)

/-- A request with well formed objects and patches. -/
def Request.WellFormed : Request → Prop
  | .create _ _ object => object.toJson.WellFormed
  | .patch _ _ _ laid => laid.WellFormed
  | _ => True

/-- Whether a request asks for an object to be created. -/
def Request.isCreation : Request → Bool
  | .create .. => true
  | _ => false

namespace MemoryCluster

/-- What a cluster keeps stays stamped whatever it is asked. -/
theorem Stamped.answer {c : MemoryCluster} (stamped : c.Stamped) {r : Request} (h : r.WellFormed) :
    (server.answer r c).2.Stamped := by
  cases r with
  | create kind scope object => exact stamped.deed (.create kind scope h)
  | patch kind scope name patch => exact stamped.deed (.patch kind scope name h)
  | delete kind scope name options => exact stamped.deed (.delete kind scope name options)
  | _ => exact stamped

end MemoryCluster

namespace Program

variable {σ α β : Type}

/-- The changes that a run makes: the requests for one that succeed. -/
def changes (server : Server σ) (p : Program α) (s : σ) : List (Request × σ) :=
  (p.moments server s).filter fun m => m.1.isChange && succeeds server m

/-- A run that changes at most one thing, and nothing at all if it fails to create what it has to. -/
structure Cautious (server : Server σ) (p : Program α) (s : σ) : Prop where
  once : (p.changes server s).length ≤ 1
  beaten : ∀ m ∈ p.moments server s, m.1.isCreation = true → succeeds server m = false →
    p.changes server s = [] ∧ ∃ f, (p.outcome server s).1 = .error f

variable {server : Server σ} {s s' : σ}

/-- A run of one request that creates nothing. -/
theorem Cautious.of_uncreating {p : Program α} (hone : (p.moments server s).length ≤ 1)
    (hcreates : ∀ m ∈ p.moments server s, m.1.isCreation = false) : Cautious server p s where
  once := Nat.le_trans (List.length_filter_le _ _) hone
  beaten := by
    intro m hm hcreation
    rw [hcreates m hm] at hcreation
    contradiction

/-- What comes before may ask for anything as long as it changes and creates nothing. -/
theorem Cautious.bind {p : Program α} {k : α → Program β} {a : α}
    (hp : p.outcome server s = (.ok a, s'))
    (hquiet : ∀ m ∈ p.moments server s, m.1.isCreation = false ∧ (m.1.isChange && succeeds server m) = false)
    (hk : Cautious server (k a) s') : Cautious server (p >>= k) s := by
  have hchanges : (p >>= k).changes server s = (k a).changes server s' := by
    have hnone : p.changes server s = [] :=
      List.filter_eq_nil_iff.mpr fun m hm => by simp [(hquiet m hm).2]
    rw [changes, moments_bind_of_ok _ _ hp, List.filter_append, ← changes, hnone, List.nil_append, changes]
  constructor
  · rw [hchanges]
    exact hk.once
  · intro m hm hcreation hfailed
    rw [moments_bind_of_ok _ _ hp, List.mem_append] at hm
    rw [hchanges, outcome_bind_of_ok _ _ hp]
    rcases hm with hm | hm
    · rw [(hquiet m hm).1] at hcreation
      contradiction
    · exact hk.beaten m hm hcreation hfailed

/-- A program is as cautious when it says in which context it fails. -/
theorem Cautious.inContext {p : Program α} (h : Cautious server p s) (context : String) :
    Cautious server (p.inContext context) s where
  once := by
    rw [changes, moments_inContext]
    exact h.once
  beaten := by
    intro m hm hcreation hfailed
    rw [moments_inContext] at hm
    obtain ⟨hnone, f, hf⟩ := h.beaten m hm hcreation hfailed
    rw [changes, moments_inContext, outcome_inContext, hf]
    exact ⟨hnone, _, rfl⟩

/-- A request that changes and creates nothing may come first. -/
theorem Cautious.request_bind {r : Request} {k : r.Answer → Program β} (hcreates : r.isCreation = false)
    (hquiet : (r.isChange && succeeds server (r, s)) = false)
    (hk : Cautious server (k (server.answer r s).1) (server.answer r s).2) :
    Cautious server (request r >>= k) s := by
  refine .bind (outcome_request server s r) (fun m hm => ?_) hk
  rw [moments_request, List.mem_singleton] at hm
  exact hm ▸ ⟨hcreates, hquiet⟩

/-- A run may end with one demand. -/
theorem cautious_demand (r : Request) (f : r.Reply → β) :
    Cautious server (demand r >>= fun reply => pure (f reply)) s := by
  have hmoments : (demand r >>= fun reply => pure (f reply)).moments server s = [(r, s)] := by
    rw [moments_bind, moments_demand]
    split <;> rfl
  constructor
  · rw [changes, hmoments]
    exact List.length_filter_le _ _
  · intro m hm _ hfailed
    rw [hmoments, List.mem_singleton] at hm
    subst hm
    refine ⟨?_, ?_⟩
    · rw [changes, hmoments, List.filter_cons, hfailed, Bool.and_false]
      rfl
    · rw [succeeds] at hfailed
      rw [outcome_bind, outcome_demand]
      rcases hanswer : server.answer r s with ⟨e | reply, s'⟩
      · exact ⟨_, rfl⟩
      · rw [hanswer] at hfailed
        contradiction

section Apply

variable (server s)

/-- Creating an object is cautious, since it asks for one change at most. -/
theorem cautious_createMissing (options : UpdateOptions) (kind : KindInfo) (object : Resource)
    (description : String) : Cautious server (createMissing options kind object description) s := by
  rw [createMissing]
  split
  · exact .of_uncreating (by simp) (by simp)
  refine .bind (outcome_tell server s _) (by simp) ?_
  split
  · exact .of_uncreating (by simp) (by simp)
  · exact cautious_demand _ _

variable [Compression]

/-- So is patching one, since it only creates once it has heard that there is none. -/
theorem cautious_patchExisting (options : UpdateOptions) (kind : KindInfo) (object live : Resource)
    (description : String) : Cautious server (patchExisting options kind object live description) s := by
  rw [patchExisting_eq]
  refine .bind (outcome_tellAll server s _) (by simp) ?_
  split
  · exact .of_uncreating (by simp) (by simp)
  split
  · exact .of_uncreating (by simp) (by simp)
  cases hanswer : (server.answer (.patch kind object.scope? object.name (object.patchTo live)) s).1 with
  | ok patched =>
    refine .of_uncreating ?_ ?_ <;> rw [moments_bind, moments_request, outcome_request, hanswer] <;>
      simp [Request.isCreation]
  | error e =>
    refine .request_bind rfl ?_ ?_
    · rw [succeeds, hanswer]
      rfl
    · rw [hanswer]
      dsimp only
      split
      · exact cautious_createMissing _ _ _ _ _ _
      · exact .of_uncreating (by simp) (by simp)

/-- Bringing one object onto a server changes at most one thing. -/
theorem cautious_applyOne (defaultScope : String) (options : UpdateOptions) (kind : KindInfo) (r : Resource) :
    Cautious server (applyOne defaultScope options kind r) s := by
  have hdescribe (object : Resource) : ∃ description,
      (describe object).outcome server s = (.ok description, (server.answer .kinds s).2) ∧
      (describe object).moments server s = [(.kinds, s)] := by
    rw [describe, outcome_bind, moments_bind, outcome_request, moments_request]
    cases hanswer : (server.answer .kinds s).1 <;> exact ⟨_, rfl, rfl⟩
  rw [applyOne]
  obtain ⟨description, houtcome, hmoments⟩ :=
    hdescribe (r.submitted (targetScope defaultScope kind r) options.gcTag)
  refine .bind houtcome (fun m hm => ?_) (.bind (outcome_tell server _ _) (by simp) (.inContext ?_ _))
  · rw [hmoments, List.mem_singleton] at hm
    exact hm ▸ ⟨rfl, rfl⟩
  refine .request_bind rfl rfl ?_
  split
  · exact cautious_patchExisting _ _ _ _ _ _ _
  split
  · exact cautious_createMissing _ _ _ _ _ _
  · exact .of_uncreating (by simp) (by simp)

end Apply

section Others

variable {others : Shared → Shared} {memo : Memo Shared}

/-- Nobody puts an object in that is not stamped. -/
theorem stamped_answer (hothers : ∀ s, Relation.ReflTransGen Shared.Acts s (others s)) {r : Request}
    (h : r.WellFormed) (stamped : memo.server.now.Stamped) :
    ((Shared.session others).answer r memo).2.server.now.Stamped := by
  have hacts {s s' : Shared} (hs : Relation.ReflTransGen Shared.Acts s s') (before : s.now.Stamped) :
      s'.now.Stamped := by
    induction hs with
    | refl => exact before
    | tail _ one ih =>
      obtain ⟨c, deed, rfl⟩ := one
      exact ih.deed deed
  rcases (Shared.server others).remembering_server r memo with hsame | hnext
  · rwa [hsame]
  · rw [hnext]
    exact hacts (hothers _) (stamped.answer h)

/-- Bringing an object onto a server asks for nothing that is not well formed. -/
theorem wellFormed_applyOne [Compression] {r : Resource} (hwf : r.toJson.WellFormed) (defaultScope : String)
    (options : UpdateOptions) (kind : KindInfo) :
    (applyOne defaultScope options kind r).Asks Request.WellFormed := by
  have hsubmitted := Resource.wellFormed_submitted (targetScope defaultScope kind r) options.gcTag hwf
  exact asks_applyOne trivial trivial hsubmitted fun last live =>
    MergePatch.wellFormed_threeWay last live hsubmitted

/-- An update of one object loses nothing that others write at the same time, whatever they do between
its requests. It changes at most one thing. A patch that is stored keeps what the object holds at that
moment at every path that leaves the patch, but for resource version and time of creation. An object
that is there when it would be created makes the update fail, and then no request of it changed
anything. -/
theorem applyOne_among_others [Compression] (hothers : ∀ s, Relation.ReflTransGen Shared.Acts s (others s))
    (stamped : memo.server.now.Stamped) {r : Resource} (hwf : r.toJson.WellFormed) (defaultScope : String)
    (options : UpdateOptions) (kind : KindInfo) :
    let update := applyOne defaultScope options kind r
    let moments := update.moments (Shared.session others) memo
    (update.changes (Shared.session others) memo).length ≤ 1 ∧
    (∀ kind scope name patch s stored c', (Request.patch kind scope name patch, s) ∈ moments →
      s.server.now.patch kind scope name patch = (.ok stored, c') →
      ∃ current, s.server.now.objects.get? (key kind scope name) = some current ∧
        c'.objects.get? (key kind scope name) = some stored ∧
        ∀ path, leaves path patch = true → stored.bare.at? path = current.bare.at? path) ∧
    ∀ kind scope object s live, (Request.create kind scope object, s) ∈ moments →
      s.server.now.objects.get? (key kind scope object.name) = some live →
      (∃ f, (update.outcome (Shared.session others) memo).1 = .error f) ∧
        ∀ m ∈ moments, ∃ count,
          (MemoryCluster.server.answer m.1 m.2.server.now).2 = m.2.server.now.asked count := by
  intro update moments
  have hcautious := cautious_applyOne (Shared.session others) memo defaultScope options kind r
  have hasks := wellFormed_applyOne hwf defaultScope options kind
  have hstamped : ∀ m ∈ moments, m.2.server.now.Stamped := fun m hm =>
    ((moments_along _ (fun a b : Memo Shared => a.server.now.Stamped → b.server.now.Stamped) (fun _ => id)
      (fun h h' => h' ∘ h) (fun r memo h => stamped_answer hothers h) hasks memo).2 m hm).1 stamped
  have hwellFormed : ∀ m ∈ moments, m.1.WellFormed := by
    intro m hm
    refine allowed_of_asks (Shared.session others) hasks memo m.1 ?_
    rw [← map_fst_moments]
    exact List.mem_map_of_mem hm
  refine ⟨hcautious.once, fun kind scope name patch s stored c' hm h => ?_,
    fun kind scope object s live hm hlive => ?_⟩
  · exact (hstamped _ hm).keeps_of_patch (hwellFormed _ hm) h
  · have hfailed : succeeds (Shared.session others) (.create kind scope object, s) = false := by
      have hcreate : (s.server.now.create kind scope object).1 =
          .error (.alreadyExists (kind.plural ++ " " ++ Text.quoted object.name ++ " already exists")) := by
        rw [MemoryCluster.create, hlive]
      exact congrArg Except.isOk hcreate
    obtain ⟨hnone, hended⟩ := hcautious.beaten _ hm rfl hfailed
    refine ⟨hended, fun m hm => MemoryCluster.asked_of_answer fun hchange => ?_⟩
    have hunchanged := List.filter_eq_nil_iff.mp hnone m hm
    rw [hchange, Bool.true_and, Bool.not_eq_true] at hunchanged
    obtain ⟨request, s⟩ := m
    cases request with
    | create | patch | delete => exact hunchanged
    | _ => contradiction

/-- A request to create an object that is there. -/
def createsAgain : Request × Memo Shared → Bool
  | (.create kind scope object, s) => (s.server.now.objects.get? (key kind scope object.name)).isSome
  | _ => false

/-- An object that another client creates after it was looked for stays as that client made it. -/
theorem applyOne_among_others_beaten :
    let configMap (value : String) : Fields :=
      [("apiVersion", .string "v1"), ("data", .object [("v", .string value)]), ("kind", .string "ConfigMap"),
        ("metadata", .object [("name", .string "a"), ("namespace", .string "default")])]
    let ours : Resource := ⟨configMap "1", by decide, by decide, by decide⟩
    let theirs : Resource := ⟨configMap "2", by decide, by decide, by decide⟩
    let kind : KindInfo := ⟨⟨"", "v1", "ConfigMap"⟩, "configmaps", .namespaced, KindInfo.everyVerb⟩
    let others (s : Shared) : Shared :=
      if s.past.length = 2 then s.become (s.now.create kind theirs.scope? theirs).2 else s
    let memo : Memo Shared := { server := ⟨.empty MemoryCluster.standardKinds ⟨1, 28⟩, []⟩ }
    let update := applyOne "default" ⟨true, none, false, .clusterScope, none, false, false⟩ kind ours
    let run := update.outcome (Shared.session others) memo
    (∃ f, run.1 = .error f) ∧
      run.2.server.now.objects.map (·.2.fields.object? "data") = [some [("v", .string "2")]] := by
  intro configMap ours theirs kind others memo update run
  have hothers : ∀ s, Relation.ReflTransGen Shared.Acts s (others s) := by
    intro s
    show Relation.ReflTransGen Shared.Acts s (if s.past.length = 2 then _ else s)
    split
    · exact .single ⟨_, .create kind theirs.scope? (by decide), rfl⟩
    · exact .refl
  have hstamped : memo.server.now.Stamped := by simp [MemoryCluster.Stamped, memo, MemoryCluster.empty]
  have hwf : ours.toJson.WellFormed := by decide
  obtain ⟨-, -, hbeaten⟩ := applyOne_among_others hothers hstamped hwf "default"
    ⟨true, none, false, .clusterScope, none, false, false⟩ kind
  have hmeets : (update.moments (Shared.session others) memo).any createsAgain = true := by decide +kernel
  obtain ⟨⟨request, s⟩, hm, hmeet⟩ := List.any_eq_true.mp hmeets
  refine ⟨?_, by decide +kernel⟩
  cases request with
  | create kind scope object =>
    obtain ⟨live, hlive⟩ := Option.isSome_iff_exists.mp hmeet
    exact (hbeaten kind scope object s live hm hlive).1
  | _ => exact absurd hmeet Bool.false_ne_true

end Others

end Program

end Reconcile
