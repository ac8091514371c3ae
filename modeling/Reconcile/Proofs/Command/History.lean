import Reconcile.Proofs.Cluster.Consistent
import Reconcile.Proofs.Command.Tiers

/-!
# The history of a cluster

A cluster is used for one task after the other: objects are seeded, sessions are opened, updates and
deletions run. Each request of an update or a deletion leaves a consistent store when it meets one, so
the store is consistent at every moment of any such history, and what a request creates or patches has a
later version than anything before it: `history_keeps_store`. No moment raises the versions by more than
one, so they last for all but the longest histories.
-/

namespace Reconcile

open MemoryCluster (session keyOf)

namespace MemoryCluster

variable {c c' : MemoryCluster} {r : Request}

/-- A request that touches nothing stores nothing. -/
theorem stored?_of_touchesNone (h : r.TouchesNone) (c : MemoryCluster) : c.stored? r = none := by
  cases r with
  | create | patch => contradiction
  | version | kinds | get | delete | list => rfl

namespace Answered

/-- Where nothing is stored, nothing is there that was not there before. -/
theorem get?_of_unstored (h : c.Answered r c') (hunstored : c.stored? r = none) {id : Identity}
    {object : Resource} (hobject : c'.objects.get? id = some object) : c.objects.get? id = some object := by
  cases h with
  | same => exact hobject
  | put undeleting left keeps stored => simp [hunstored] at stored
  | erased =>
    rw [afterErase, Store.get?_erase] at hobject
    split at hobject
    · contradiction
    · exact hobject

/-- Where nothing is stored, the store stays consistent. -/
theorem consistent_of_unstored (h : c.Answered r c') (hunstored : c.stored? r = none)
    (consistent : c.Consistent) : c'.Consistent := by
  cases h with
  | same => exact consistent.asked _
  | put undeleting left keeps stored => simp [hunstored] at stored
  | erased => exact consistent.erase _ _

end Answered

/-- A request that fails changes neither the objects nor the versions nor the record of calls. -/
theorem unchanged_of_failed (h : (server.answer r c).1.isOk = false) :
    (server.answer r c).2.objects = c.objects ∧ (server.answer r c).2.lastVersion = c.lastVersion ∧
      (server.answer r c).2.calls = c.calls := by
  obtain ⟨count, hsame⟩ := asked_of_answer (c := c) (r := r) fun _ => h
  rw [hsame]
  exact ⟨rfl, rfl, rfl⟩

end MemoryCluster

namespace Program

variable {α β : Type} {memo memo' : Memo MemoryCluster} {kinds : List KindInfo}

/-- An answer of a session makes of its cluster what an answer of the cluster does. -/
theorem answered_session (r : Request) (memo : Memo MemoryCluster) :
    memo.server.Answered r (session.answer r memo).2.server := by
  cases hchange : r.isChange with
  | true =>
    rw [answer_of_isChange hchange]
    exact memo.server.answered r
  | false =>
    obtain ⟨count, h⟩ := server_answer_of_unchanging hchange memo
    rw [h]
    refine .same count ?_
    cases r with
    | create | patch => contradiction
    | version | kinds | get | delete | list => rfl

/-- A session that was told what its cluster serves goes on knowing it. -/
theorem told_outcome (h : memo.kinds = some memo.server.kinds) (p : Program α) :
    (p.outcome session memo).2.kinds = some (p.outcome session memo).2.server.kinds := by
  rw [(knowsKinds_outcome (.inr h) p).2]
  exact outcome_keeps session (fun request s => MemoryCluster.server.remembering_keeps_kinds request s) p h

section Conducted

/-- Every request of a run leaves a consistent store when it meets one. -/
def Conducted (p : Program α) (memo : Memo MemoryCluster) : Prop :=
  p.Throughout session
    (fun m => m.2.server.Consistent → (session.answer m.1 m.2).2.server.Consistent) memo

/-- Such a run meets consistent stores only, and leaves one. -/
theorem Conducted.consistent {p : Program α} (h : p.Conducted memo) (consistent : memo.server.Consistent) :
    (p.outcome session memo).2.server.Consistent ∧
      ∀ m ∈ p.moments session memo, m.2.server.Consistent := by
  obtain ⟨hend, hmoments, -⟩ := moments_lead session
    (fun s s' => s.server.Consistent → s'.server.Consistent) (fun _ => id) (fun h h' => h' ∘ h) h
  exact ⟨hend consistent, fun m hm => (hmoments m hm).1 consistent⟩

/-- Reading and deleting is enough. -/
theorem conducted_of_asks {p : Program α} (h : p.Asks Request.TouchesNone) (memo : Memo MemoryCluster) :
    p.Conducted memo := fun m hm =>
  (answered_session m.1 m.2).consistent_of_unstored
    (MemoryCluster.stored?_of_touchesNone (throughout_of_asks session h memo m hm) _)

variable {options : UpdateOptions} {kind : KindInfo} {object live : Resource} {defaultScope : String}

/-- Creating an object of a served kind leaves a consistent store. -/
theorem conducted_createMissing (hwf : object.toJson.WellFormed)
    (hunsaved : object.metadata.string? "uid" = none)
    (hkind : KindInfo.find memo.server.kinds object.gvk = some kind) (description : String) :
    (createMissing options kind object description).Conducted memo := by
  rw [createMissing]
  split
  · exact throughout_fail _
  · refine Throughout.bind (conducted_of_asks (asks_tell _) memo) fun _ s' htell => ?_
    obtain rfl := (Prod.mk.inj htell).2
    split
    · exact throughout_pure _
    · refine Throughout.bind (throughout_demand fun consistent => ?_) fun _ _ _ => throughout_pure _
      exact consistent.create hwf hunsaved hkind

variable [Compression]

/-- So does bringing an object that is there into line. -/
theorem conducted_patchExisting (hwf : object.toJson.WellFormed)
    (hunsaved : object.metadata.string? "uid" = none)
    (hkind : KindInfo.find memo.server.kinds object.gvk = some kind)
    (hplaced : kind.isNamespaced = true → ∃ ns, object.scope? = some ns)
    (hlive : memo.server.objects.get? (keyOf kind object) = some live) (description : String) :
    (patchExisting options kind object live description).Conducted memo := by
  rw [patchExisting_eq]
  refine Throughout.bind (conducted_of_asks (asks_tellAll _) memo) fun _ s' htell => ?_
  rw [outcome_tellAll] at htell
  obtain rfl := (Prod.mk.inj htell).2
  split
  · exact throughout_pure _
  split
  · exact throughout_pure _
  · refine Throughout.bind (throughout_request fun consistent => ?_) fun answer s' hanswer => ?_
    · exact consistent.patch hwf hkind hplaced hlive
    · cases answer with
      | ok patched => exact throughout_pure _
      | error e =>
        dsimp only
        split
        · refine conducted_createMissing hwf hunsaved ?_ description
          rw [outcome_request] at hanswer
          rw [← (Prod.mk.inj hanswer).2, (answered_session _ memo).kinds_eq.1]
          exact hkind
        · exact throughout_fail _

/-- So does bringing an object onto the cluster. -/
theorem conducted_applyOne (htold : memo.kinds = some memo.server.kinds) (consistent : memo.server.Consistent)
    {r : Resource} (input : r.Submittable) (hkind : KindInfo.find memo.server.kinds r.gvk = some kind) :
    (applyOne defaultScope options kind r).Conducted memo := by
  have hwf := Resource.wellFormed_submitted (targetScope defaultScope kind r) options.gcTag input.wellFormed
  have hunsaved := (Resource.string?_uid_submitted (targetScope defaultScope kind r) options.gcTag r).trans
    input.unsaved
  have hserved : KindInfo.find memo.server.kinds
      (r.submitted (targetScope defaultScope kind r) options.gcTag).gvk = some kind := by
    rw [Resource.gvk_submitted, hkind]
  refine Throughout.bind (conducted_of_asks (asks_describe Request.touchesNone_kinds _) memo)
    fun description s' hdescribe => ?_
  rw [outcome_describe _ htold] at hdescribe
  obtain rfl := (Prod.mk.inj hdescribe).2
  refine Throughout.bind (conducted_of_asks (asks_tell _) memo) fun _ s' htell => ?_
  obtain rfl := (Prod.mk.inj htell).2
  refine Throughout.inContext (Throughout.bind (throughout_request id) fun answer s' hget => ?_) _
  obtain ⟨hanswer, rfl⟩ := Prod.mk.inj hget
  -- the look-up says whether the object is there, and the store has to agree before it is patched
  cases answer with
  | error e =>
    dsimp only
    split
    · exact conducted_createMissing hwf hunsaved hserved _
    · exact throughout_fail _
  | ok live =>
    have hfound : memo.server.objects.get?
        (MemoryCluster.key kind (targetScope defaultScope kind r) r.name) = some live := by
      have hlook : memo.server.get kind (targetScope defaultScope kind r)
          (r.submitted (targetScope defaultScope kind r) options.gcTag).name = .ok live :=
        Except.ok.inj hanswer
      rw [Resource.name_submitted, MemoryCluster.get] at hlook
      cases hobject : memo.server.objects.get?
          (MemoryCluster.key kind (targetScope defaultScope kind r) r.name) with
      | none => simp [hobject] at hlook
      | some object =>
        rw [hobject] at hlook
        rw [Except.ok.inj hlook]
    obtain ⟨hlive, hplaced⟩ :=
      key_target_eq consistent.sound.keyed.inPlace hkind defaultScope options.gcTag hfound
    exact conducted_patchExisting hwf hunsaved hserved hplaced hlive _

/-- So does bringing objects onto the cluster one after the other. -/
theorem conducted_applyAll {objects : List Resource} (inputs : ∀ r ∈ objects, r.Submittable)
    (report : UpdateReport) (htold : memo.kinds = some memo.server.kinds)
    (consistent : memo.server.Consistent) :
    (applyAll defaultScope options objects report).Conducted memo := by
  induction objects generalizing report memo with
  | nil => exact throughout_pure _
  | cons r rest ih =>
    have hrest : ∀ r ∈ rest, r.Submittable := fun r hr => inputs r (List.mem_cons_of_mem _ hr)
    refine Throughout.bind (conducted_of_asks (asks_kindOf Request.touchesNone_kinds _ _) memo)
      fun found s' hkindOf => ?_
    rw [outcome_kindOf _ htold] at hkindOf
    obtain ⟨hfound, rfl⟩ := Prod.mk.inj hkindOf
    cases found with
    | none => exact ih hrest _ htold consistent
    | some kind =>
      have hkind : KindInfo.find memo.server.kinds r.gvk = some kind := by
        cases hfind : KindInfo.find memo.server.kinds r.gvk with
        | none => cases hignore : options.ignoreUnknown <;> simp [hfind, hignore] at hfound
        | some other =>
          rw [hfind] at hfound
          exact Except.ok.inj hfound
      have hone : (applyOne defaultScope options kind r).Conducted memo :=
        conducted_applyOne htold consistent (inputs r List.mem_cons_self) hkind
      refine Throughout.bind hone fun brought s' houtcome => ?_
      have hafter : _ = s' := congrArg Prod.snd houtcome
      refine ih hrest _ ?_ ?_
      · exact hafter ▸ told_outcome htold _
      · exact hafter ▸ (hone.consistent consistent).1

/-- So does the first phase of an update. -/
theorem conducted_applyPhase {objects : List Resource} (inputs : ∀ r ∈ objects, r.Submittable)
    (table : RankTable) (knows : KnowsKinds memo) (consistent : memo.server.Consistent) :
    (applyPhase defaultScope options table objects).Conducted memo := by
  refine Throughout.bind (conducted_of_asks (asks_ofExcept _) memo) fun _ s' hcheck => ?_
  rw [outcome_ofExcept] at hcheck
  obtain rfl := (Prod.mk.inj hcheck).2
  refine Throughout.bind (conducted_of_asks (asks_demand Request.touchesNone_kinds) memo)
    fun kinds s' hkinds => ?_
  obtain ⟨count, hdemand⟩ := outcome_demand_kinds_of_knows knows
  rw [hdemand] at hkinds
  obtain rfl := (Prod.mk.inj hkinds).2
  refine Throughout.bind (conducted_of_asks (asks_tell _) _) fun _ s' htell => ?_
  obtain rfl := (Prod.mk.inj htell).2
  refine conducted_applyAll (fun r hr => inputs r ?_) _ rfl (consistent.asked count)
  exact (creationOrder_perm _ _ _).mem_iff.mp hr

/-- So does an update with any options. -/
theorem conducted_update {objects : List Resource} (inputs : ∀ r ∈ objects, r.Submittable)
    (table : RankTable) (knows : KnowsKinds memo) (consistent : memo.server.Consistent) :
    (update defaultScope options table objects).Conducted memo := by
  rw [update_eq_phases]
  exact Throughout.bind (conducted_applyPhase inputs table knows consistent) fun report s' _ =>
    conducted_of_asks (asks_collectPhase _ _ _) s'

end Conducted

section Uids

variable {id : Identity} {a b : Resource}

/-- What is there stays with its uid while nothing is deleted. -/
theorem Conducted.stays {p : Program α} (h : p.Conducted memo) (consistent : memo.server.Consistent)
    (hasks : p.Asks fun r => r.isDeletion = false) (ha : memo.server.objects.get? id = some a) :
    ∃ b, (p.outcome session memo).2.server.objects.get? id = some b ∧ b.uid? = a.uid? := by
  let leads (s s' : Memo MemoryCluster) : Prop := ∀ x, s.server.objects.get? id = some x →
    ∃ y, s'.server.objects.get? id = some y ∧ y.uid? = x.uid?
  have htrans {s s' s'' : Memo MemoryCluster} (first : leads s s') (second : leads s' s'') : leads s s'' := by
    intro x hx
    obtain ⟨y, hy, hsame⟩ := first x hx
    obtain ⟨z, hz, hsame'⟩ := second y hy
    exact ⟨z, hz, hsame'.trans hsame⟩
  refine (moments_lead session leads (fun _ x hx => ⟨x, hx, rfl⟩) htrans fun m hm x hx => ?_).1 a ha
  have hanswered := answered_session m.1 m.2
  obtain ⟨y, hy⟩ := hanswered.present (throughout_of_asks session hasks memo m hm) hx
  exact ⟨y, hy, hanswered.uid?_eq ((h.consistent consistent).2 m hm).sound.keyed hx hy⟩

/-- What is there was there before when nothing was created or patched. -/
theorem get?_of_touchesNone {p : Program α} (hasks : p.Asks Request.TouchesNone)
    (hb : (p.outcome session memo).2.server.objects.get? id = some b) :
    memo.server.objects.get? id = some b := by
  refine outcome_keeps_of_asks session
    (fun s => s.server.objects.get? id = some b → memo.server.objects.get? id = some b)
    (fun r s hr hs hafter => hs ?_) hasks (fun h => h) hb
  exact (answered_session r s).get?_of_unstored (MemoryCluster.stored?_of_touchesNone hr _) hafter

/-- An update changes the uid of no object that was there before and is there after it. -/
theorem uid?_update [Compression] {defaultScope : String} {options : UpdateOptions} {table : RankTable}
    {objects : List Resource} (inputs : ∀ r ∈ objects, r.Submittable) (knows : KnowsKinds memo)
    (consistent : memo.server.Consistent) (ha : memo.server.objects.get? id = some a)
    (hb : ((update defaultScope options table objects).outcome session memo).2.server.objects.get? id =
      some b) : b.uid? = a.uid? := by
  obtain ⟨between, hbetween, hsame⟩ := Conducted.stays (conducted_applyPhase inputs table knows consistent)
    consistent (@asks_applyPhase_undeleting options defaultScope _ table objects) ha
  rw [update_eq_phases, outcome_bind] at hb
  rcases happly : (applyPhase defaultScope options table objects).outcome session memo with
    ⟨f | report, memo'⟩ <;> rw [happly] at hbetween hb
  · rw [← Option.some.inj (hbetween.symm.trans hb), hsame]
  · have hkept := get?_of_touchesNone (asks_collectPhase options table report) hb
    rw [← Option.some.inj (hbetween.symm.trans hkept), hsame]

end Uids

end Program

/-- One step in the use of a cluster. -/
inductive Step where
  /-- Another client puts an object in. -/
  | seed (object : Resource)
  /-- A new session is opened. -/
  | renew
  | update (defaultScope : String) (options : UpdateOptions) (table : RankTable) (objects : List Resource)
  | delete (defaultScope : String) (gracePeriod : Option UInt32) (ignoreUnknown : Bool) (table : RankTable)
    (objects : List Resource)

namespace Step

open Program (KnowsKinds)

/-- Objects that are seeded are of served kinds and name a namespace exactly when their kind has them;
neither they nor what is updated state a uid. -/
def Admissible (kinds : List KindInfo) : Step → Prop
  | .seed object => object.Submittable ∧
    ∃ kind, KindInfo.find kinds object.gvk = some kind ∧ object.scope?.isSome = kind.isNamespaced
  | .update _ _ _ objects => ∀ r ∈ objects, r.Submittable
  | .renew | .delete .. => True

/-- Whether a step runs a command. -/
def isCommand : Step → Bool
  | .update .. | .delete .. => true
  | .seed _ | .renew => false

section Runs

variable [Compression]

/-- The session and its cluster after a step. -/
def run : Step → Memo MemoryCluster → Memo MemoryCluster
  | .seed object, memo => { memo with server := (memo.server.insert object).2 }
  | .renew, memo => { server := memo.server }
  | .update defaultScope options table objects, memo =>
    ((Program.update defaultScope options table objects).outcome session memo).2
  | .delete defaultScope gracePeriod ignoreUnknown table objects, memo =>
    ((Program.delete defaultScope gracePeriod ignoreUnknown table objects).outcome session memo).2

/-- The moments of a step: its requests, each with the cluster that it meets. Seeding meets a cluster
without a request. -/
def moments : Step → Memo MemoryCluster → List (Option Request × MemoryCluster)
  | .seed _, memo => [(none, memo.server)]
  | .renew, _ => []
  | .update defaultScope options table objects, memo =>
    ((Program.update defaultScope options table objects).moments session memo).map
      fun m => (some m.1, m.2.server)
  | .delete defaultScope gracePeriod ignoreUnknown table objects, memo =>
    ((Program.delete defaultScope gracePeriod ignoreUnknown table objects).moments session memo).map
      fun m => (some m.1, m.2.server)

/-- The session and its cluster after steps. -/
def runAll (steps : List Step) (memo : Memo MemoryCluster) : Memo MemoryCluster :=
  steps.foldl (fun memo step => step.run memo) memo

/-- The moments of steps. -/
def trail : List Step → Memo MemoryCluster → List (Option Request × MemoryCluster)
  | [], _ => []
  | step :: rest, memo => step.moments memo ++ trail rest (step.run memo)

end Runs

/-- A session between two steps. -/
structure Ready (kinds : List KindInfo) (memo : Memo MemoryCluster) : Prop where
  knows : KnowsKinds memo
  serves : memo.server.kinds = kinds
  consistent : memo.server.Consistent

section Consistent

variable {kinds : List KindInfo} {memo : Memo MemoryCluster}

/-- After a program whose requests keep the store consistent a session is as ready as before. -/
theorem Ready.conducted {α : Type} {p : Program α} (ready : Ready kinds memo) (h : p.Conducted memo) :
    Ready kinds (p.outcome session memo).2 ∧
      ∀ m ∈ (p.moments session memo).map fun m => (some m.1, m.2.server), m.2.Consistent := by
  obtain ⟨knows, serves⟩ := Program.knowsKinds_outcome ready.knows p
  obtain ⟨hend, hmoments⟩ := h.consistent ready.consistent
  exact ⟨⟨knows, serves.trans ready.serves, hend⟩, List.forall_mem_map.mpr hmoments⟩

variable [Compression]

/-- A step meets consistent stores only, and leaves one. -/
theorem Ready.run (ready : Ready kinds memo) {step : Step} (h : step.Admissible kinds) :
    Ready kinds (step.run memo) ∧ ∀ m ∈ step.moments memo, m.2.Consistent := by
  cases step with
  | seed object =>
    obtain ⟨input, kind, hkind, hscope⟩ := h
    rw [← ready.serves] at hkind
    have hserves : (memo.server.insert object).2.kinds = memo.server.kinds := by
      rw [MemoryCluster.insert]
      split <;> rfl
    refine ⟨⟨?_, hserves.trans ready.serves, ?_⟩, List.forall_mem_singleton.mpr ready.consistent⟩
    · exact ready.knows.imp_right fun told => told.trans (congrArg some hserves.symm)
    · exact ready.consistent.insert input.wellFormed input.unsaved hkind hscope
  | renew => exact ⟨⟨.inl rfl, ready.serves, ready.consistent⟩, List.forall_mem_nil _⟩
  | update defaultScope options table objects =>
    exact ready.conducted (Program.conducted_update h table ready.knows ready.consistent)
  | delete defaultScope gracePeriod ignoreUnknown table objects =>
    exact ready.conducted (Program.conducted_of_asks (Program.asks_delete_touchesNone _ _ _ _ _) memo)

/-- So do steps, one after the other. -/
theorem Ready.runAll {steps : List Step} (ready : Ready kinds memo)
    (h : ∀ step ∈ steps, step.Admissible kinds) :
    Ready kinds (runAll steps memo) ∧ ∀ m ∈ trail steps memo, m.2.Consistent := by
  induction steps generalizing memo with
  | nil => exact ⟨ready, List.forall_mem_nil _⟩
  | cons step rest ih =>
    rw [List.forall_mem_cons] at h
    obtain ⟨hrun, hmoments⟩ := ready.run h.1
    obtain ⟨hend, hrest⟩ := ih hrun h.2
    exact ⟨hend, List.forall_mem_append.mpr ⟨hmoments, hrest⟩⟩

/-- A command changes the uid of no object that was there before and is there after it. -/
theorem Ready.uid?_run (ready : Ready kinds memo) {step : Step} (h : step.Admissible kinds)
    (hcommand : step.isCommand = true) {id : Identity} {a b : Resource}
    (ha : memo.server.objects.get? id = some a) (hb : (step.run memo).server.objects.get? id = some b) :
    b.uid? = a.uid? := by
  cases step with
  | seed | renew => contradiction
  | update => exact Program.uid?_update h ready.knows ready.consistent ha hb
  | delete =>
    have hkept := Program.get?_of_touchesNone (Program.asks_delete_touchesNone _ _ _ _ _) hb
    rw [← Option.some.inj (ha.symm.trans hkept)]

end Consistent

section Versions

/-- Between two clusters no version is given out that was given out before, and no moment gives out more
than one. -/
structure Rising (first : MemoryCluster) (moments : List (Option Request × MemoryCluster))
    (last : MemoryCluster) : Prop where
  whole : first.lastVersion.toNat ≤ last.lastVersion.toNat
  between : ∀ m ∈ moments, first.lastVersion.toNat ≤ m.2.lastVersion.toNat ∧
    m.2.lastVersion.toNat ≤ last.lastVersion.toNat
  ordered : moments.Pairwise fun a b => a.2.lastVersion.toNat ≤ b.2.lastVersion.toNat
  counted : last.lastVersion.toNat ≤ first.lastVersion.toNat + moments.length
  paced : ∀ i m, moments[i]? = some m → m.2.lastVersion.toNat ≤ first.lastVersion.toNat + i

/-- Where nothing happens no version is given out. -/
theorem Rising.refl (c : MemoryCluster) : Rising c [] c where
  whole := Nat.le_refl _
  between := List.forall_mem_nil _
  ordered := .nil
  counted := Nat.le_refl _
  paced := by simp

/-- What happens later gives out later versions. -/
theorem Rising.append {first middle last : MemoryCluster}
    {moments later : List (Option Request × MemoryCluster)} (h : Rising first moments middle)
    (h' : Rising middle later last) : Rising first (moments ++ later) last where
  whole := Nat.le_trans h.whole h'.whole
  between := List.forall_mem_append.mpr
    ⟨fun m hm => ⟨(h.between m hm).1, Nat.le_trans (h.between m hm).2 h'.whole⟩,
      fun m hm => ⟨Nat.le_trans h.whole (h'.between m hm).1, (h'.between m hm).2⟩⟩
  ordered := List.pairwise_append.mpr
    ⟨h.ordered, h'.ordered, fun a ha b hb => Nat.le_trans (h.between a ha).2 (h'.between b hb).1⟩
  counted := by
    have hfirst := h.counted
    have hthen := h'.counted
    rw [List.length_append]
    omega
  paced := by
    intro i m hm
    by_cases hi : i < moments.length
    · rw [List.getElem?_append_left hi] at hm
      exact h.paced i m hm
    · rw [List.getElem?_append_right (Nat.le_of_not_lt hi)] at hm
      have hfirst := h.counted
      have hthen := h'.paced _ m hm
      omega

/-- Up to a moment of it no later version was given out than there. -/
theorem Rising.up_to {first last c : MemoryCluster} {moments past rest : List (Option Request × MemoryCluster)}
    {r : Option Request} (h : Rising first moments last) (hsplit : moments = past ++ (r, c) :: rest) :
    ∀ m ∈ past ++ [(r, c)], m ∈ moments ∧ m.2.lastVersion.toNat ≤ c.lastVersion.toNat := by
  subst hsplit
  intro m hm
  rcases List.mem_append.mp hm with hpast | hnow
  · exact ⟨List.mem_append_left _ hpast,
      (List.pairwise_append.mp h.ordered).2.2 m hpast _ List.mem_cons_self⟩
  · obtain rfl := List.mem_singleton.mp hnow
    exact ⟨List.mem_append_right _ List.mem_cons_self, Nat.le_refl _⟩

/-- A program gives out versions in order. -/
theorem rising_outcome {α : Type} (p : Program α) (memo : Memo MemoryCluster) :
    Rising memo.server ((p.moments session memo).map fun m => (some m.1, m.2.server))
      (p.outcome session memo).2.server := by
  have hstep (r : Request) (s : Memo MemoryCluster) := (Program.answered_session r s).lastVersion_le
  obtain ⟨hend, hmoments, hordered⟩ := Program.moments_lead session
    (fun s s' => s.server.lastVersion.toNat ≤ s'.server.lastVersion.toNat) (fun _ => Nat.le_refl _)
    (fun h h' => Nat.le_trans h h') (p := p) (s := memo) fun m _ => (hstep m.1 m.2).1
  obtain ⟨hcounted, hpaced⟩ := Program.moments_raise session (fun s => s.server.lastVersion.toNat)
    (fun r s => (hstep r s).2) p memo
  refine ⟨hend, List.forall_mem_map.mpr hmoments,
    List.pairwise_map.mpr (hordered.imp fun {a b} h => Nat.le_trans (hstep a.1 a.2).1 h),
    by rwa [List.length_map], fun i m hm => ?_⟩
  rw [List.getElem?_map, Option.map_eq_some_iff] at hm
  obtain ⟨asked, hasked, rfl⟩ := hm
  exact hpaced i asked hasked

variable [Compression]

/-- So does a step. -/
theorem rising_run (step : Step) (memo : Memo MemoryCluster) :
    Rising memo.server (step.moments memo) (step.run memo).server := by
  cases step with
  | seed object =>
    obtain ⟨hwhole, hcounted⟩ := memo.server.lastVersion_insert object
    refine ⟨hwhole, by simp [moments, run, hwhole], List.pairwise_singleton _ _, hcounted, fun i m hm => ?_⟩
    rw [List.mem_singleton.mp (List.mem_of_getElem? hm)]
    exact Nat.le_add_right _ i
  | renew => exact .refl memo.server
  | update | delete => exact rising_outcome _ memo

/-- So do steps, one after the other. -/
theorem rising_trail (steps : List Step) (memo : Memo MemoryCluster) :
    Rising memo.server (trail steps memo) (runAll steps memo).server := by
  induction steps generalizing memo with
  | nil => exact .refl memo.server
  | cons step rest ih => exact (rising_run step memo).append (ih _)

end Versions

end Step

namespace MemoryCluster

/-- What is promised of a store: each object is under its own kind, under its namespace if the kind has
them, and under its name, and each has a uid and a resource version of its own. -/
structure Kept (c : MemoryCluster) : Prop where
  keyed : ∀ entry ∈ c.objects, ∃ kind ∈ c.kinds, kind.gvk = entry.2.gvk ∧
    entry.1 = ⟨entry.2.gvk, if kind.isNamespaced then entry.2.scope? else none, entry.2.name⟩
  saved : ∀ entry ∈ c.objects, ∃ uid, entry.2.uid? = some uid ∧ uid ≠ ""
  uids : (c.objects.map (·.2.uid?)).Nodup
  versioned : ∀ entry ∈ c.objects, ∃ n ≤ c.lastVersion.toNat, entry.2.resourceVersion? = some (toString n)
  versions : (c.objects.map (·.2.resourceVersion?)).Nodup

/-- What belongs to one identity alone occurs once. -/
theorem Sound.nodup_map {c : MemoryCluster} (sound : c.Sound) {β : Type} {f : Resource → β}
    (apart : ∀ id other a b, c.objects.get? id = some a → c.objects.get? other = some b → f a = f b →
      id = other) : (c.objects.map fun entry => f entry.2).Nodup := by
  refine List.Nodup.map_on (fun x hx y hy hsame => ?_) (List.Nodup.of_map _ sound.nodup_objects)
  have hx' := sound.mem_iff.mp hx
  have hy' := sound.mem_iff.mp hy
  have hid := apart x.1 y.1 x.2 y.2 hx' hy' hsame
  exact Prod.ext hid (Option.some.inj (hx'.symm.trans (hid ▸ hy')))

/-- A consistent store is kept as promised. -/
theorem Consistent.kept {c : MemoryCluster} (h : c.Consistent) : c.Kept where
  keyed := by
    intro entry hentry
    have hobject := h.sound.mem_iff.mp hentry
    obtain ⟨kind, hkind⟩ := h.served _ _ hobject
    refine ⟨kind, List.mem_of_find?_eq_some hkind, KindInfo.gvk_of_find hkind, ?_⟩
    rw [(h.sound.fits _ _ hobject).place kind hkind, keyOf, key, KindInfo.gvk_of_find hkind]
  saved := by
    intro entry hentry
    obtain ⟨uid, huid⟩ := (h.sound.fits _ _ (h.sound.mem_iff.mp hentry)).saved
    exact ⟨uid, huid, Resource.uid?_ne_empty huid⟩
  uids := h.sound.nodup_map h.sound.distinct
  versioned := fun entry hentry => h.versioned _ _ (h.sound.mem_iff.mp hentry)
  versions := h.sound.nodup_map h.apart

end MemoryCluster

namespace Step

variable {kinds : List KindInfo}

/-- However a cluster is used from the start, its store is kept at every moment and after all, whatever the
source of its uids, if that makes none twice. A request that creates or patches gives its object a later
version than any object had at any moment so far, and a command changes the uid of no object that is there
before and after it. On any cluster at all, a request that fails changes neither the objects nor the
versions nor the record of calls; and the versions are not spent before `2 ^ 64 - 1` moments have passed. -/
theorem history_keeps_store [Compression] {uids : Nat → {text : String // text ≠ ""}}
    (hfresh : Function.Injective uids) (hkinds : (kinds.map (·.gvk)).Nodup) (version : ServerVersion)
    {steps : List Step} (hadmissible : ∀ step ∈ steps, step.Admissible kinds) :
    let start : Memo MemoryCluster := { server := .emptyWith uids kinds version }
    ((runAll steps start).server.Kept ∧ ∀ m ∈ trail steps start, m.2.Kept) ∧
      (∀ past r c rest, trail steps start = past ++ (some r, c) :: rest →
        ∀ stored, c.stored? r = some stored →
          (∃ id, (MemoryCluster.server.answer r c).2.objects.get? id = some stored) ∧
          ∃ n : Nat, stored.resourceVersion? = some (toString n) ∧
            ∀ m ∈ past ++ [(some r, c)], ∀ entry ∈ m.2.objects,
              ∃ k < n, entry.2.resourceVersion? = some (toString k)) ∧
      (∀ earlier step later, steps = earlier ++ step :: later → step.isCommand = true →
        ∀ id a b, (runAll earlier start).server.objects.get? id = some a →
          (runAll (earlier ++ [step]) start).server.objects.get? id = some b → b.uid? = a.uid?) ∧
      (∀ (r : Request) (c : MemoryCluster), (MemoryCluster.server.answer r c).1.isOk = false →
        (MemoryCluster.server.answer r c).2.objects = c.objects ∧
          (MemoryCluster.server.answer r c).2.lastVersion = c.lastVersion ∧
          (MemoryCluster.server.answer r c).2.calls = c.calls) ∧
      ∀ past m rest, trail steps start = past ++ m :: rest → m.2.versionsSpent = true →
        UInt64.size ≤ past.length + 1 := by
  intro start
  have hready : Ready kinds start :=
    ⟨.inl rfl, rfl, MemoryCluster.consistent_emptyWith hfresh hkinds version⟩
  have hrising := rising_trail steps start
  obtain ⟨hend, hmoments⟩ := hready.runAll hadmissible
  refine ⟨⟨hend.consistent.kept, fun m hm => (hmoments m hm).kept⟩, ?_, ?_,
    fun _ _ => MemoryCluster.unchanged_of_failed, ?_⟩
  · intro past r c rest hsplit stored hstored
    obtain ⟨hfound, hversion⟩ := (c.answered r).found_stored hstored
    refine ⟨hfound, c.lastVersion.toNat + 1, hversion, fun m hm entry hentry => ?_⟩
    obtain ⟨hmem, hearlier⟩ := hrising.up_to hsplit m hm
    obtain ⟨k, hk, hversion⟩ := (hmoments m hmem).kept.versioned entry hentry
    exact ⟨k, by omega, hversion⟩
  · rintro earlier step later rfl hcommand id a b ha hb
    have hbefore := (hready.runAll fun s hs => hadmissible s (List.mem_append_left _ hs)).1
    have hstep : step.Admissible kinds := hadmissible step (List.mem_append_right _ List.mem_cons_self)
    rw [runAll, List.foldl_append] at hb
    exact hbefore.uid?_run hstep hcommand ha hb
  · intro past m rest hsplit hspent
    have hpaced := hrising.paced past.length m (by simp [hsplit])
    have hlast := MemoryCluster.toNat_lastVersion_of_versionsSpent hspent
    have hstart : start.server.lastVersion.toNat = 0 := rfl
    omega

/-- A namespace is seeded, an object is brought into it, and a new session deletes that. -/
theorem history_keeps_store_of_one_object :
    let ns : Resource :=
      ⟨[("apiVersion", .string "v1"), ("kind", .string "Namespace"),
        ("metadata", .object [("name", .string "z")])], by decide, by decide, by decide⟩
    let configMap : Resource :=
      ⟨[("apiVersion", .string "v1"), ("kind", .string "ConfigMap"),
        ("metadata", .object [("name", .string "a"), ("namespace", .string "z")])],
        by decide, by decide, by decide⟩
    let steps : List Step :=
      [.seed ns, .update "default" ⟨true, none, false, .clusterScope, none, false, false⟩ .standard [configMap],
        .renew, .delete "default" none false .standard [configMap]]
    let start : Memo MemoryCluster := { server := .empty MemoryCluster.standardKinds ⟨1, 28⟩ }
    (runAll steps start).server.Kept ∧ (runAll steps start).server.lastVersion = 2 ∧
      (runAll steps start).server.calls =
        ["create configmaps z.a", "delete configmaps z.a (Foreground)"] := by
  intro ns configMap steps start
  have hadmissible : ∀ step ∈ steps, step.Admissible MemoryCluster.standardKinds := by
    simp only [steps, List.forall_mem_cons]
    refine ⟨⟨⟨by decide, by decide⟩, ⟨⟨"", "v1", "Namespace"⟩, "namespaces", .cluster, KindInfo.everyVerb⟩,
      by decide, by decide⟩, ?_, trivial, trivial, List.forall_mem_nil _⟩
    exact List.forall_mem_singleton.mpr ⟨by decide, by decide⟩
  have hkept :=
    (history_keeps_store MemoryCluster.countedUids_injective (by decide) ⟨1, 28⟩ hadmissible).1.1
  exact ⟨hkept, by decide +kernel, by decide +kernel⟩

end Step

end Reconcile
