import Reconcile.Gzip.Member
import Reconcile.Proofs.Cluster.Session
import Reconcile.Proofs.Command.Phases
import Reconcile.Proofs.Command.Target

/-!
# Whose object a request touches

The objects that a run of an update fetches, creates and changes are those for which its inputs
stand. The inputs are handled one after the other, and each touches its own object alone, so inputs
with different targets never meet.
-/

namespace Reconcile

/-- The server object that a request fetches, creates or changes. -/
def Request.touched? : Request → Option Identity
  | .get kind scope name => some (MemoryCluster.key kind scope name).normal
  | .create kind scope object => some (MemoryCluster.key kind scope object.name).normal
  | .patch kind scope name _ => some (MemoryCluster.key kind scope name).normal
  | _ => none

/-- A request touches no object. -/
def Request.TouchesNone (r : Request) : Prop := r.touched? = none

/-- Asking for the kinds touches no object. -/
theorem Request.touchesNone_kinds : Request.TouchesNone .kinds := rfl

/-- A request touches no object but one. -/
def Request.TouchesOnly (id : Identity) (r : Request) : Prop :=
  ∀ other, r.touched? = some other → other = id

/-- A request touches what it is about and nothing else. -/
theorem Request.touchesOnly_of_eq {id : Identity} {r : Request} (h : r.touched? = some id) :
    r.TouchesOnly id := by
  intro other hother
  rw [h] at hother
  exact (Option.some.inj hother).symm

variable [Compression] in
/-- The submitted object is where its input stands for. -/
theorem normal_key_submitted {kinds : List KindInfo} {defaultScope : String} {kind : KindInfo}
    {r : Resource} {id : Identity} (hkind : KindInfo.find kinds r.gvk = some kind)
    (hid : r.target? kinds defaultScope = some id) (tag : Option String) :
    (MemoryCluster.key kind (targetScope defaultScope kind r) r.name).normal = id.normal ∧
      (MemoryCluster.key kind (r.submitted (targetScope defaultScope kind r) tag).scope? r.name).normal =
        id.normal := by
  rw [Resource.target?_of_find hkind, Option.some.injEq] at hid
  subst hid
  rw [MemoryCluster.key, MemoryCluster.key, KindInfo.gvk_of_find hkind, Resource.scope?_submitted,
    KindInfo.isNamespaced]
  cases hlives : kind.scope with
  | cluster => simp [Resource.targetScope_cluster hlives]
  | namespaced =>
    rw [Resource.targetScope_namespaced hlives]
    cases hscope : r.scope? with
    | none => by_cases hempty : defaultScope = "" <;> simp [Identity.normal, hempty, Option.filter]
    | some own => simp [Identity.normal]

namespace Program

section Asks

variable {allowed : Request → Prop}

/-- Creating an object asks for its creation alone. -/
theorem asks_createMissing {options : UpdateOptions} {kind : KindInfo} {object : Resource}
    {description : String} (h : allowed (.create kind object.scope? object)) :
    (createMissing options kind object description).Asks allowed := by
  rw [createMissing]
  split
  · trivial
  · refine asks_bind (asks_tell _) fun _ => ?_
    split
    · exact asks_pure _
    · exact asks_bind (asks_demand h) fun _ => asks_pure _

/-- The search for garbage asks for the version and the kinds, and for listings. -/
theorem asks_search (hversion : allowed .version) (hkinds : allowed .kinds)
    (hlist : ∀ kind scope selector, allowed (.list kind scope selector)) (options : CollectOptions)
    (seen : Seen) : (search options seen).Asks allowed := by
  have hscopes (kinds : List KindInfo) : (scopesToList options kinds).Asks allowed := by
    rw [scopesToList]
    split
    · exact asks_pure _
    · split
      · trivial
      · exact asks_bind (asks_inContext (asks_demand (hlist _ _ _))) fun _ => asks_pure _
  have hgather (listings : List (KindInfo × Option String)) (g : Gathering) :
      (gather options.tag seen listings g).Asks allowed := by
    induction listings generalizing g with
    | nil => exact asks_pure _
    | cons listing rest ih =>
      refine asks_bind (asks_request (hlist _ _ _)) fun answer => ?_
      cases answer with
      | ok found => exact ih _
      | error e =>
        dsimp only
        split
        · exact asks_bind (asks_tell _) fun _ => ih _
        · trivial
  refine asks_bind (asks_demand hversion) fun version => asks_bind (asks_demand hkinds) fun kinds => ?_
  exact asks_bind (hscopes kinds) fun scopes => asks_bind (hgather _ _) fun g => asks_pure _

/-- Collecting an object touches none by name. -/
theorem asks_collectOne (options : DeleteOptions) (dryRun : Bool) (r : Resource)
    (report : CollectReport) : (collectOne options dryRun r report).Asks Request.TouchesNone := by
  refine asks_bind (asks_describe Request.touchesNone_kinds r) fun description => ?_
  refine asks_bind (asks_tell _) fun _ => ?_
  split
  · exact asks_pure _
  · refine asks_bind (asks_resolve Request.touchesNone_kinds _) fun kind =>
      asks_bind (asks_request rfl) fun answer => ?_
    cases answer with
    | ok _ => exact asks_pure _
    | error e =>
      dsimp only
      split
      · exact asks_pure _
      · trivial

/-- Nor does collecting several. -/
theorem asks_collectAll (options : DeleteOptions) (dryRun : Bool) (doomed : List Resource)
    (report : CollectReport) : (collectAll options dryRun doomed report).Asks Request.TouchesNone := by
  induction doomed generalizing report with
  | nil => exact asks_pure _
  | cons r rest ih => exact asks_bind (asks_collectOne options dryRun r report) fun _ => ih _

/-- Collecting garbage fetches, creates and changes nothing. -/
theorem asks_collect (options : CollectOptions) (seen : Seen) (table : RankTable) :
    (collect options seen table).Asks Request.TouchesNone := by
  have hsearch : (search options seen).Asks Request.TouchesNone := by
    refine asks_search ?_ ?_ (fun _ _ _ => ?_) options seen <;> rfl
  rw [collect_eq_phases]
  exact asks_bind hsearch fun found => asks_collectAll _ _ _ _

/-- The second phase of an update touches no object by name. -/
theorem asks_collectPhase (options : UpdateOptions) (table : RankTable) (report : UpdateReport) :
    (collectPhase options table report).Asks Request.TouchesNone := by
  rw [collectPhase]
  split
  · exact asks_bind (asks_collect _ _ _) fun _ => asks_pure _
  · exact asks_pure _

variable [Compression]

/-- Bringing an object that is there into line asks for a patch of it, or for its creation. -/
theorem asks_patchExisting {options : UpdateOptions} {kind : KindInfo} {object live : Resource}
    {description : String} (hcreate : allowed (.create kind object.scope? object))
    (hpatch : ∀ last, allowed (.patch kind object.scope? object.name
      (MergePatch.threeWay last object.toJson live.toJson))) :
    (patchExisting options kind object live description).Asks allowed := by
  rw [patchExisting]
  generalize lastAppliedOf live = last
  obtain ⟨last, notices⟩ := last
  refine asks_bind (asks_tellAll notices) fun _ => ?_
  dsimp only
  split
  · exact asks_pure _
  split
  · exact asks_pure _
  refine asks_bind (asks_request (hpatch _)) fun answer => ?_
  cases answer with
  | ok patched => exact asks_pure _
  | error e =>
    dsimp only
    split
    · exact asks_createMissing hcreate
    · trivial

/-- Bringing an object onto the server asks for the kinds, fetches it, and creates or patches it. -/
theorem asks_applyOne {defaultScope : String} {options : UpdateOptions} {kind : KindInfo} {r : Resource}
    (hkinds : allowed .kinds)
    (hget : allowed (.get kind (targetScope defaultScope kind r) r.name))
    (hcreate : allowed (.create kind (r.submitted (targetScope defaultScope kind r) options.gcTag).scope?
      (r.submitted (targetScope defaultScope kind r) options.gcTag)))
    (hpatch : ∀ last live, allowed (.patch kind
      (r.submitted (targetScope defaultScope kind r) options.gcTag).scope? r.name (MergePatch.threeWay last
        (r.submitted (targetScope defaultScope kind r) options.gcTag).toJson live))) :
    (applyOne defaultScope options kind r).Asks allowed := by
  refine asks_bind (asks_describe hkinds _) fun description => ?_
  refine asks_bind (asks_tell _) fun _ => asks_inContext ?_
  refine asks_bind (asks_request (by rwa [Resource.name_submitted])) fun answer => ?_
  cases answer with
  | ok live =>
    refine asks_patchExisting hcreate fun last => ?_
    rw [Resource.name_submitted]
    exact hpatch last _
  | error e =>
    dsimp only
    split
    · exact asks_createMissing hcreate
    · trivial

/-- Bringing objects onto the server asks for the kinds, and for what bringing each of them asks for. -/
theorem asks_applyAll {defaultScope : String} {options : UpdateOptions} (hkinds : allowed .kinds)
    (hone : ∀ kind r, (applyOne defaultScope options kind r).Asks allowed) (objects : List Resource)
    (report : UpdateReport) : (applyAll defaultScope options objects report).Asks allowed := by
  induction objects generalizing report with
  | nil => exact asks_pure _
  | cons r rest ih =>
    refine asks_bind (asks_kindOf hkinds _ _) fun kind => ?_
    cases kind with
    | none => exact ih _
    | some kind => exact asks_bind (hone kind r) fun _ => ih _

/-- So does the first phase of an update. -/
theorem asks_applyPhase {defaultScope : String} {options : UpdateOptions} (hkinds : allowed .kinds)
    (hone : ∀ kind r, (applyOne defaultScope options kind r).Asks allowed) (table : RankTable)
    (objects : List Resource) : (applyPhase defaultScope options table objects).Asks allowed := by
  refine asks_bind (asks_ofExcept _) fun _ => asks_bind (asks_demand hkinds) fun kinds => ?_
  exact asks_bind (asks_tell _) fun _ => asks_applyAll hkinds hone _ _

/-- Bringing an object onto the server touches nothing but what the input stands for. -/
theorem touchesOnly_applyOne {kinds : List KindInfo} {defaultScope : String} {options : UpdateOptions}
    {kind : KindInfo} {r : Resource} {id : Identity} (hkind : KindInfo.find kinds r.gvk = some kind)
    (hid : r.target? kinds defaultScope = some id) :
    (applyOne defaultScope options kind r).Asks (Request.TouchesOnly id.normal) := by
  obtain ⟨hget, hplaced⟩ := normal_key_submitted hkind hid options.gcTag
  refine asks_applyOne (fun _ h => by simp [Request.touched?] at h) (Request.touchesOnly_of_eq ?_)
    (Request.touchesOnly_of_eq ?_) fun last live => Request.touchesOnly_of_eq ?_
  · rw [Request.touched?, hget]
  · rw [Request.touched?, Resource.name_submitted, hplaced]
  · rw [Request.touched?, hplaced]

end Asks

section Touched

variable {σ α β : Type}

/-- What a program touches when it runs. -/
def touched (server : Server σ) (p : Program α) (s : σ) : List Identity :=
  (p.requests server s).filterMap Request.touched?

/-- A program that asks for nothing by name touches nothing. -/
theorem touched_eq_nil (server : Server σ) {p : Program α}
    (h : p.Asks Request.TouchesNone) (s : σ) : p.touched server s = [] := by
  rw [touched, List.filterMap_eq_nil_iff]
  exact allowed_of_asks server h s

/-- A program in two parts touches what the first one does, and then what the second one does if there
is one. -/
theorem touched_bind (server : Server σ) (p : Program α) (k : α → Program β) (s : σ) :
    (p >>= k).touched server s =
      p.touched server s ++
        match p.outcome server s with
        | (.ok a, s') => (k a).touched server s'
        | (.error _, _) => [] := by
  rw [touched, requests_bind, List.filterMap_append, touched]
  rcases p.outcome server s with ⟨f | a, s'⟩ <;> rfl

end Touched

/-- What is touched while inputs are handled one after the other, cut where the next input begins:
what lies in between is the object of the one input. -/
structure Handled (kinds : List KindInfo) (defaultScope : String) (objects : List Resource)
    (touched : List Identity) (handled : List (Resource × List Identity)) : Prop where
  touched_eq : touched = handled.flatMap (·.2)
  inputs : handled.map (·.1) <+: objects
  own : ∀ h ∈ handled, ∀ id ∈ h.2, (h.1.target? kinds defaultScope).map Identity.normal = some id

section Handled

variable {kinds : List KindInfo} (defaultScope : String)

/-- Before the first input nothing was handled. -/
theorem Handled.nil (objects : List Resource) : Handled kinds defaultScope objects [] [] :=
  ⟨rfl, List.nil_prefix, by simp⟩

/-- With an input more, what was touched for it was touched first. -/
theorem Handled.cons {r : Resource} {rest : List Resource} {own touched : List Identity}
    {handled : List (Resource × List Identity)}
    (hown : ∀ id ∈ own, (r.target? kinds defaultScope).map Identity.normal = some id)
    (h : Handled kinds defaultScope rest touched handled) :
    Handled kinds defaultScope (r :: rest) (own ++ touched) ((r, own) :: handled) where
  touched_eq := by rw [List.flatMap_cons, h.touched_eq]
  inputs := by
    rw [List.map_cons, List.prefix_cons_inj]
    exact h.inputs
  own := by
    intro x hx
    rcases List.mem_cons.mp hx with rfl | hx
    · exact hown
    · exact h.own x hx

end Handled

section Update

variable [Compression] {σ : Type} (server : Server σ) {kinds : List KindInfo} (defaultScope : String)
  (options : UpdateOptions)

/-- Bringing objects onto the server touches the objects for which they stand, one after the
other. -/
theorem handled_applyAll (objects : List Resource) (report : UpdateReport) (memo : Memo σ)
    (hmemo : memo.kinds = some kinds) :
    ∃ handled, Handled kinds defaultScope objects
      ((applyAll defaultScope options objects report).touched server.remembering memo) handled := by
  -- a run that fails on an input leaves nothing touched for those after it
  induction objects generalizing report memo with
  | nil => exact ⟨[], Handled.nil defaultScope []⟩
  | cons r rest ih =>
    rw [applyAll, touched_bind, touched_eq_nil _ (asks_kindOf Request.touchesNone_kinds _ _),
      List.nil_append, outcome_kindOf server hmemo]
    cases hkind : KindInfo.find kinds r.gvk with
    | none =>
      cases options.ignoreUnknown with
      | false => exact ⟨[], Handled.nil defaultScope _⟩
      | true =>
        obtain ⟨handled, h⟩ := ih { report with skippedUnknown := report.skippedUnknown + 1 } memo hmemo
        exact ⟨(r, []) :: handled, Handled.cons defaultScope (fun _ h => absurd h List.not_mem_nil) h⟩
    | some kind =>
      have hid : r.target? kinds defaultScope = some _ := Resource.target?_of_find hkind
      have hown : ∀ id ∈ (applyOne defaultScope options kind r).touched server.remembering memo,
          (r.target? kinds defaultScope).map Identity.normal = some id := by
        intro id hmem
        obtain ⟨request, hrequest, htouched⟩ := List.mem_filterMap.mp hmem
        rw [hid, Option.map_some,
          allowed_of_asks _ (touchesOnly_applyOne hkind hid) memo request hrequest id htouched]
      dsimp only
      rw [touched_bind]
      have hmemo' := outcome_keeps server.remembering
        (fun request s => server.remembering_keeps_kinds request s)
        (applyOne defaultScope options kind r) hmemo
      rcases houtcome : (applyOne defaultScope options kind r).outcome server.remembering memo with
        ⟨f | ⟨applied, became⟩, memo'⟩
      · exact ⟨_, Handled.cons defaultScope hown (Handled.nil defaultScope rest)⟩
      · rw [houtcome] at hmemo'
        obtain ⟨handled, h⟩ := ih _ memo' hmemo'
        exact ⟨_, Handled.cons defaultScope hown h⟩

/-- An update touches the objects for which its inputs stand, one after the other. -/
theorem handled_update (table : RankTable) (objects : List Resource) (memo : Memo σ)
    (hkinds : (server.remembering.answer .kinds memo).1 = .ok kinds) :
    ∃ handled, Handled kinds defaultScope (creationOrder table (KindInfo.scopes kinds) objects)
      ((update defaultScope options table objects).touched server.remembering memo) handled := by
  have hcollects (memo : Memo σ) (report : UpdateReport) :
      (collectPhase options table report).touched server.remembering memo = [] :=
    touched_eq_nil _ (asks_collectPhase options table report) memo
  have hphase : (update defaultScope options table objects).touched server.remembering memo =
      (applyPhase defaultScope options table objects).touched server.remembering memo := by
    rw [update_eq_phases, touched_bind]
    rcases (applyPhase defaultScope options table objects).outcome server.remembering memo with
      ⟨f | report, memo'⟩
    · exact List.append_nil _
    · dsimp only
      rw [hcollects, List.append_nil]
  rw [hphase, applyPhase, touched_bind, outcome_ofExcept, touched, requests_ofExcept]
  cases checkUpdate objects options.gcTag with
  | error f => exact ⟨[], Handled.nil defaultScope _⟩
  | ok _ =>
    have hmemo := server.remembering_learns_kinds hkinds
    rcases hanswer : server.remembering.answer .kinds memo with ⟨answer, memo'⟩
    rw [hanswer] at hkinds hmemo
    obtain rfl : answer = .ok kinds := hkinds
    dsimp only [List.filterMap_nil, List.nil_append]
    rw [touched_bind, touched_eq_nil _ (asks_demand Request.touchesNone_kinds), outcome_demand, hanswer]
    exact handled_applyAll server defaultScope options _ .empty memo' hmemo

/-- The check for duplicates leaves open exactly whether inputs are ambiguous. Where none are, what
an accepted run fetches, creates and changes falls apart by input: each touches the object for which
it stands, and no two touch the same. -/
theorem update_touches_own_targets (table : RankTable) (objects : List Resource) (memo : Memo σ)
    (hkinds : (server.remembering.answer .kinds memo).1 = .ok kinds)
    (haccepted : checkDuplicates objects = .ok ()) :
    (objects.Pairwise fun a b =>
      Resource.SharesTarget kinds defaultScope a b ↔ Resource.Ambiguous kinds defaultScope a b) ∧
    ((objects.Pairwise fun a b => ¬Resource.Ambiguous kinds defaultScope a b) →
      ∃ handled,
        Handled kinds defaultScope (creationOrder table (KindInfo.scopes kinds) objects)
          ((update defaultScope options table objects).touched server.remembering memo) handled ∧
        handled.Pairwise fun a b => ∀ id ∈ a.2, id ∉ b.2) := by
  have hopen : objects.Pairwise fun a b =>
      Resource.SharesTarget kinds defaultScope a b ↔ Resource.Ambiguous kinds defaultScope a b := by
    have hdistinct := List.pairwise_map.mp ((checkDuplicates_iff objects).mp haccepted)
    exact hdistinct.imp Resource.sharesTarget_iff_ambiguous
  refine ⟨hopen, fun hclear => ?_⟩
  have hapart : objects.Pairwise fun a b => ¬Resource.SharesTarget kinds defaultScope a b :=
    hopen.imp₂ (fun _ _ hiff hnot h => hnot (hiff.mp h)) hclear
  obtain ⟨handled, h⟩ := handled_update server defaultScope options table objects memo hkinds
  refine ⟨handled, h, ?_⟩
  have hordered : (creationOrder table (KindInfo.scopes kinds) objects).Pairwise fun a b =>
      ¬Resource.SharesTarget kinds defaultScope a b :=
    (creationOrder_perm table _ objects).symm.pairwise hapart fun h hshares => h hshares.symm
  have hinputs := List.pairwise_map.mp (hordered.sublist h.inputs.sublist)
  refine hinputs.imp_of_mem fun {a b} ha hb hne id hida hidb => ?_
  obtain ⟨x, hx, hxid⟩ := Option.map_eq_some_iff.mp (h.own a ha id hida)
  obtain ⟨y, hy, hyid⟩ := Option.map_eq_some_iff.mp (h.own b hb id hidb)
  exact Resource.normal_target?_ne hne hx hy (hxid.trans hyid.symm)

end Update

/-- Objects of one name in the default namespace, in another one and in none. -/
theorem update_touches_own_targets_of_one_name :
    let configMap (metadata : Fields) : Fields :=
      [("apiVersion", .string "v1"), ("kind", .string "ConfigMap"), ("metadata", .object metadata)]
    let plain : Resource := ⟨configMap [("name", .string "a")], by decide, by decide, by decide⟩
    let placed : Resource :=
      ⟨configMap [("name", .string "a"), ("namespace", .string "other")],
        by decide, by decide, by decide⟩
    let scopeless : Resource :=
      ⟨[("apiVersion", .string "v1"), ("kind", .string "Namespace"),
        ("metadata", .object [("name", .string "a")])], by decide, by decide, by decide⟩
    let cluster := MemoryCluster.empty MemoryCluster.standardKinds ⟨1, 28⟩
    let options : UpdateOptions := ⟨true, none, false, .clusterScope, none, false, false⟩
    ∃ handled,
      Handled cluster.kinds "default"
        (creationOrder .standard (KindInfo.scopes cluster.kinds) [plain, placed, scopeless])
        ((update "default" options .standard [plain, placed, scopeless]).touched
          MemoryCluster.server.remembering { server := cluster }) handled ∧
        handled.Pairwise fun a b => ∀ id ∈ a.2, id ∉ b.2 := by
  intro configMap plain placed scopeless cluster options
  have haccepted : checkDuplicates [plain, placed, scopeless] = .ok () :=
    (checkDuplicates_iff _).mpr (by decide)
  exact (update_touches_own_targets MemoryCluster.server "default" options .standard
    [plain, placed, scopeless] { server := cluster } rfl haccepted).2 (by decide)

end Program

end Reconcile
