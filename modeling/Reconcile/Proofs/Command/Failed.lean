import Reconcile.Proofs.Command.DryRun
import Reconcile.Proofs.Command.Recalled

/-!
# Updates that fail

An update that fails has collected nothing. Bringing an object onto the cluster either succeeds or
changes nothing, so whatever stops the first phase leaves the inputs before it applied and no others;
in the second phase only the search for garbage can fail, and that changes nothing either. An update
that is refused for its inputs or its tag has not even looked at the cluster.
-/

namespace Reconcile

open MemoryCluster (session)

/-- The causes for which an update is refused: an object is given twice, or the tag is not acceptable. -/
def Cause.isRefusal : Cause → Bool
  | .model (.duplicate _) => true
  | .invalidTag _ => true
  | _ => false

/-- Whether a kind is served. -/
def Resource.isServed (kinds : List KindInfo) (r : Resource) : Bool := (KindInfo.find kinds r.gvk).isSome

namespace Program

variable {memo memo' : Memo MemoryCluster} {options : UpdateOptions} {defaultScope : String}
  {kind : KindInfo} {object live r : Resource} {description : String} {objects : List Resource}

section Decisive

/-- Creating an object succeeds once it is made. -/
theorem decisive_createMissing : (createMissing options kind object description).Decisive := by
  rw [createMissing]
  split
  · trivial
  · refine decisive_bind (asks_tell _) fun _ => ?_
    split
    · exact decisive_pure _
    · refine ⟨fun _ _ => trivial, fun answer => ?_⟩
      cases answer <;> trivial

variable [Compression]

/-- Patching an object succeeds once it is made. -/
theorem decisive_patchExisting : (patchExisting options kind object live description).Decisive := by
  rw [patchExisting_eq]
  refine decisive_bind (asks_tellAll _) fun _ => ?_
  split
  · exact decisive_pure _
  split
  · exact decisive_pure _
  refine ⟨fun _ _ => trivial, fun answer => ?_⟩
  cases answer with
  | ok patched => trivial
  | error e =>
    show Decisive (if e.isNotFound then _ else _)
    split
    · exact decisive_createMissing
    · trivial

/-- Bringing one object onto a cluster fails only as long as nothing was changed. -/
theorem decisive_applyOne : (applyOne defaultScope options kind r).Decisive := by
  refine decisive_bind (asks_describe Request.unchanging_kinds _) fun description => ?_
  refine decisive_bind (asks_tell _) fun _ => decisive_inContext ?_
  refine decisive_bind (asks_request rfl) fun answer => ?_
  cases answer with
  | ok live => exact decisive_patchExisting
  | error e =>
    dsimp only
    split
    · exact decisive_createMissing
    · trivial

end Decisive

section FailsWith

/-- A cause that is no refusal. -/
def Unrefused (cause : Cause) : Prop := cause.isRefusal = false

/-- What a server answers is no refusal. -/
theorem unrefused_api (e : ApiError) : Unrefused (.api e) := rfl

/-- Looking up a kind fails with no refusal. -/
theorem failsWith_kindInfo (gvk : Gvk) : (kindInfo gvk).FailsWith Unrefused :=
  failsWith_bind (failsWith_demand unrefused_api _) fun _ => failsWith_pure _

/-- Nor does describing an object. -/
theorem failsWith_describe (r : Resource) : (describe r).FailsWith Unrefused := by
  refine failsWith_bind (failsWith_request _) fun answer => ?_
  cases answer <;> exact failsWith_pure _

/-- Nor does creating one. -/
theorem failsWith_createMissing :
    (createMissing options kind object description).FailsWith Unrefused := by
  rw [createMissing]
  split
  · exact rfl
  · refine failsWith_bind (failsWith_tell _) fun _ => ?_
    split
    · exact failsWith_pure _
    · exact failsWith_bind (failsWith_demand unrefused_api _) fun _ => failsWith_pure _

/-- Nor does a search for garbage. -/
theorem failsWith_search (options : CollectOptions) (seen : Seen) :
    (search options seen).FailsWith Unrefused := by
  have hscopes (kinds : List KindInfo) : (scopesToList options kinds).FailsWith Unrefused := by
    rw [scopesToList]
    split
    · exact failsWith_pure _
    · split
      · exact rfl
      · exact failsWith_bind (failsWith_inContext (failsWith_demand unrefused_api _)) fun _ => failsWith_pure _
  have hgather (listings : List (KindInfo × Option String)) (g : Gathering) :
      (gather options.tag seen listings g).FailsWith Unrefused := by
    induction listings generalizing g with
    | nil => exact failsWith_pure _
    | cons listing rest ih =>
      refine failsWith_bind (failsWith_request _) fun answer => ?_
      cases answer with
      | ok found => exact ih _
      | error e =>
        dsimp only
        split
        · exact failsWith_bind (failsWith_tell _) fun _ => ih _
        · exact unrefused_api e
  refine failsWith_bind (failsWith_demand unrefused_api _) fun version => ?_
  refine failsWith_bind (failsWith_demand unrefused_api _) fun kinds => ?_
  exact failsWith_bind (hscopes kinds) fun scopes => failsWith_bind (hgather _ _) fun g => failsWith_pure _

variable [Compression]

/-- Bringing an input onto a cluster fails with no refusal. -/
theorem failsWith_applyOne : (applyOne defaultScope options kind r).FailsWith Unrefused := by
  refine failsWith_bind (failsWith_describe _) fun description => ?_
  refine failsWith_bind (failsWith_tell _) fun _ => failsWith_inContext ?_
  refine failsWith_bind (failsWith_request _) fun answer => ?_
  cases answer with
  | ok live =>
    dsimp only
    rw [patchExisting_eq]
    refine failsWith_bind (failsWith_tellAll _) fun _ => ?_
    split
    · exact failsWith_pure _
    split
    · exact failsWith_pure _
    refine failsWith_bind (failsWith_request _) fun answer => ?_
    cases answer with
    | ok patched => exact failsWith_pure _
    | error e =>
      dsimp only
      split
      · exact failsWith_createMissing
      · exact unrefused_api e
  | error e =>
    dsimp only
    split
    · exact failsWith_createMissing
    · exact unrefused_api e

/-- Bringing objects onto a cluster fails for other causes than a refusal. -/
theorem failsWith_applyAll (objects : List Resource) (report : UpdateReport) :
    (applyAll defaultScope options objects report).FailsWith Unrefused := by
  induction objects generalizing report with
  | nil => exact failsWith_pure _
  | cons r rest ih =>
    have hkindOf : (kindOf options.ignoreUnknown r).FailsWith Unrefused := by
      refine failsWith_bind (failsWith_kindInfo _) fun kind => ?_
      cases kind with
      | some kind => exact failsWith_pure _
      | none => cases options.ignoreUnknown <;> trivial
    refine failsWith_bind hkindOf fun kind => ?_
    cases kind with
    | none => exact ih _
    | some kind => exact failsWith_bind failsWith_applyOne fun _ => ih _

end FailsWith

section Collect

/-- Deleting a piece of garbage cannot fail when its kind is served: that it is gone or another one counts
as a race. -/
theorem ok_of_collectOne (hkinds : memo.kinds = some memo.server.kinds)
    (hkind : KindInfo.find memo.server.kinds r.gvk = some kind) (how : DeleteOptions) (dryRun : Bool)
    (report : CollectReport) :
    ∃ report' memo', (collectOne how dryRun r report).outcome session memo = (.ok report', memo') := by
  rw [collectOne, outcome_bind, outcome_describe _ hkinds]
  dsimp only
  rw [outcome_bind, outcome_tell]
  dsimp only
  split
  · exact ⟨_, _, rfl⟩
  rw [outcome_bind, outcome_resolve _ hkinds hkind]
  dsimp only
  rw [outcome_bind, outcome_request]
  have hanswer : session.answer (.delete kind r.scope? r.name (how.withUid r.uid?)) memo =
      ((memo.server.delete kind r.scope? r.name (how.withUid r.uid?)).1,
        { memo with server := (memo.server.delete kind r.scope? r.name (how.withUid r.uid?)).2 }) := rfl
  rw [hanswer]
  obtain ⟨e, hraced, hdelete⟩ | ⟨current, -, -, hdelete⟩ :=
    MemoryCluster.delete_cases (c := memo.server) kind r.scope? r.name (how.withUid r.uid?)
  · rw [hdelete]
    dsimp only
    rw [if_pos hraced]
    exact ⟨_, _, rfl⟩
  · rw [hdelete]
    exact ⟨_, _, rfl⟩

/-- Deleting objects of served kinds always comes to an end. -/
theorem ok_of_collectAll (hkinds : memo.kinds = some memo.server.kinds) {doomed : List Resource}
    (hserved : ∀ r ∈ doomed, ∃ kind, KindInfo.find memo.server.kinds r.gvk = some kind)
    (how : DeleteOptions) (dryRun : Bool) (report : CollectReport) :
    ∃ report' memo', (collectAll how dryRun doomed report).outcome session memo = (.ok report', memo') := by
  induction doomed generalizing memo report with
  | nil => exact ⟨report, memo, rfl⟩
  | cons r rest ih =>
    obtain ⟨kind, hkind⟩ := hserved r List.mem_cons_self
    obtain ⟨middle, between, hone⟩ := ok_of_collectOne hkinds hkind how dryRun report
    have hspares := spares_collectOne hkinds hone
    rw [collectAll, outcome_bind_of_ok _ _ hone]
    refine ih (by rw [hspares.knows, hspares.kinds_eq, hkinds]) (fun x hx => ?_) middle
    rw [hspares.kinds_eq]
    exact hserved x (List.mem_cons_of_mem _ hx)

/-- A collection fails only in its search, which deletes nothing. -/
theorem search_of_collect_error (inPlace : memo.server.InPlace) (hkinds : memo.kinds = some memo.server.kinds)
    {options : CollectOptions} {seen : Seen} {table : RankTable} {f : Failure}
    (h : (collect options seen table).outcome session memo = (.error f, memo')) :
    (search options seen).outcome session memo = (.error f, memo') := by
  rw [collect_eq_phases, outcome_bind] at h
  rcases hsearch : (search options seen).outcome session memo with ⟨g | found, between⟩
  · rw [hsearch] at h
    simp only [Prod.mk.injEq, Except.error.injEq] at h
    obtain ⟨rfl, rfl⟩ := h
    rfl
  · obtain ⟨found', count, version, hfound, hknown, hgathered⟩ :=
      outcome_search_gathered hkinds (canSearch_of_search hkinds hsearch) seen
    obtain ⟨hok, rfl⟩ := Prod.mk.inj (hsearch.symm.trans hfound)
    obtain rfl := Except.ok.inj hok
    have hserved : ∀ r ∈ deletionOrder table (KindInfo.scopes found.kinds) found.gathering.doomed,
        ∃ kind, KindInfo.find memo.server.kinds r.gvk = some kind := by
      intro r hr
      have hdoomed := (deletionOrder_perm table _ _).mem_iff.mp hr
      rw [hgathered] at hdoomed
      exact (MemoryCluster.listed_of_doomed inPlace hdoomed).2.1
    obtain ⟨report, final, hall⟩ := @ok_of_collectAll
      { memo with server := memo.server.asked count, version := version } hkinds _ hserved
      (.forVersion found.version) options.dryRun _
    rw [hsearch] at h
    dsimp only at h
    rw [sweep, hall] at h
    simp at h

end Collect

section Apply

variable [Compression]

/-- How far bringing inputs onto a cluster came: the session is what it is once the inputs of known kinds
among the first ones are brought, and those alone. -/
structure AppliedUpTo (defaultScope : String) (options : UpdateOptions) (done : List Resource)
    (memo reached : Memo MemoryCluster) : Prop where
  inPlace : reached.server.InPlace
  knows : reached.kinds = some reached.server.kinds
  kinds_eq : reached.server.kinds = memo.server.kinds
  reaches : ∀ start, ∃ report, (applyAll defaultScope options
    (done.filter (·.isServed memo.server.kinds)) start).outcome session memo = (.ok report, reached)

namespace AppliedUpTo

variable {done : List Resource} {between reached : Memo MemoryCluster}

/-- Nothing is brought yet. -/
theorem nil (inPlace : memo.server.InPlace) (hkinds : memo.kinds = some memo.server.kinds) :
    AppliedUpTo defaultScope options [] memo memo :=
  ⟨inPlace, hkinds, rfl, fun start => ⟨start, rfl⟩⟩

/-- An input of an unknown kind does not count. -/
theorem skip (h : AppliedUpTo defaultScope options done memo reached)
    (hunknown : KindInfo.find memo.server.kinds r.gvk = none) :
    AppliedUpTo defaultScope options (r :: done) memo reached where
  inPlace := h.inPlace
  knows := h.knows
  kinds_eq := h.kinds_eq
  reaches := by
    rw [List.filter_cons_of_neg (by simp [Resource.isServed, hunknown])]
    exact h.reaches

/-- An input that is brought, before the others. -/
theorem cons {stored : Resource} {became : Outcome} (hkinds : memo.kinds = some memo.server.kinds)
    (hkind : KindInfo.find memo.server.kinds r.gvk = some kind)
    (hone : (applyOne defaultScope options kind r).outcome session memo = (.ok (stored, became), between))
    (hsame : between.server.kinds = memo.server.kinds)
    (h : AppliedUpTo defaultScope options done between reached) :
    AppliedUpTo defaultScope options (r :: done) memo reached where
  inPlace := h.inPlace
  knows := h.knows
  kinds_eq := h.kinds_eq.trans hsame
  reaches := by
    intro start
    rw [List.filter_cons_of_pos (by simp [Resource.isServed, hkind]), applyAll, outcome_bind,
      outcome_kindOf _ hkinds, hkind]
    dsimp only
    rw [outcome_bind_of_ok _ _ hone, ← hsame]
    exact h.reaches _

end AppliedUpTo

/-- Bringing one object onto a cluster leaves every object in its place. -/
theorem inPlace_of_applyOne (inPlace : memo.server.InPlace) (hkinds : memo.kinds = some memo.server.kinds)
    (hkind : KindInfo.find memo.server.kinds r.gvk = some kind) (hwf : r.toJson.WellFormed)
    {stored : Resource} {became : Outcome}
    (h : (applyOne defaultScope options kind r).outcome session memo = (.ok (stored, became), memo')) :
    memo'.server.InPlace ∧ memo'.kinds = some memo'.server.kinds ∧
      memo'.server.kinds = memo.server.kinds := by
  cases hdry : options.dryRun with
  | false =>
    obtain ⟨c, hlaid, rfl⟩ := laid_of_applyOne inPlace hkinds hkind hwf hdry h
    exact ⟨hlaid.inPlace, hkinds.trans (congrArg some hlaid.kinds_eq.symm), hlaid.kinds_eq⟩
  | true =>
    obtain ⟨count, hcount⟩ := server_outcome_of_unchanging
      (@asks_applyOne_of_dry defaultScope options hdry _ kind r) memo
    have hknows := outcome_keeps session
      (fun request s => MemoryCluster.server.remembering_keeps_kinds request s)
      (applyOne defaultScope options kind r) hkinds
    rw [h] at hcount hknows
    dsimp only at hcount hknows
    rw [hcount]
    exact ⟨⟨inPlace.rising, inPlace.sits⟩, hknows, rfl⟩

/-- Whatever bringing inputs onto a cluster comes to, the first of them are brought: all when it
succeeds, and when it fails those before the one that fails, which changes nothing. -/
theorem appliedUpTo_of_applyAll (inPlace : memo.server.InPlace) (hkinds : memo.kinds = some memo.server.kinds)
    (hwf : ∀ r ∈ objects, r.toJson.WellFormed) (report : UpdateReport) :
    ∃ done reached, done <+: objects ∧ AppliedUpTo defaultScope options done memo reached ∧
      match (applyAll defaultScope options objects report).outcome session memo with
      | (.ok _, memo') => memo' = reached
      | (.error _, memo') => ∃ count, memo'.server = reached.server.asked count := by
  induction objects generalizing memo report with
  | nil => exact ⟨[], memo, List.nil_prefix, .nil inPlace hkinds, rfl⟩
  | cons r rest ih =>
    have hrest : ∀ r ∈ rest, r.toJson.WellFormed := fun r hr => hwf r (List.mem_cons_of_mem _ hr)
    rw [applyAll, outcome_bind, outcome_kindOf _ hkinds]
    cases hkind : KindInfo.find memo.server.kinds r.gvk with
    | none =>
      cases options.ignoreUnknown with
      | false =>
        exact ⟨[], memo, List.nil_prefix, .nil inPlace hkinds, memo.server.discoveries, rfl⟩
      | true =>
        obtain ⟨done, reached, hdone, hupto, hend⟩ := ih inPlace hkinds hrest _
        exact ⟨r :: done, reached, List.prefix_cons_inj r |>.mpr hdone, hupto.skip hkind, hend⟩
    | some kind =>
      dsimp only
      rw [outcome_bind]
      rcases hone : (applyOne defaultScope options kind r).outcome session memo with
        ⟨f | ⟨stored, became⟩, between⟩
      · exact ⟨[], memo, List.nil_prefix, .nil inPlace hkinds, decisive_applyOne.server_of_error hone⟩
      · obtain ⟨hinPlace, hknows, hsame⟩ :=
          inPlace_of_applyOne inPlace hkinds hkind (hwf r List.mem_cons_self) hone
        obtain ⟨done, reached, hdone, hupto, hend⟩ := ih hinPlace hknows hrest _
        exact ⟨r :: done, reached, List.prefix_cons_inj r |>.mpr hdone, .cons hkinds hkind hone hsame hupto,
          hend⟩

end Apply

section Update

variable {table : RankTable} {f : Failure}

/-- When the second phase of an update fails, it has deleted nothing and the cluster is as it was. -/
theorem undeleting_of_collectPhase_error (inPlace : memo.server.InPlace)
    (hkinds : memo.kinds = some memo.server.kinds) {applied : UpdateReport}
    (h : (collectPhase options table applied).outcome session memo = (.error f, memo')) :
    (∀ request ∈ (collectPhase options table applied).requests session memo, request.isDeletion = false) ∧
      (∃ count, memo'.server = memo.server.asked count) ∧ Unrefused f.cause := by
  by_cases hcollects : ∃ tag, options.gcTag = some tag ∧ options.skipGc = false
  · obtain ⟨tag, htag, hskip⟩ := hcollects
    let search := search (collectOptions options tag) applied.seen
    have hcollect : (collect (collectOptions options tag) applied.seen table).outcome session memo =
        (.error f, memo') := by
      rw [collectPhase_of_tag htag hskip, outcome_bind] at h
      rcases hcollect : (collect (collectOptions options tag) applied.seen table).outcome session memo with
        ⟨g | gc, between⟩
      · rw [hcollect] at h
        simpa using h
      · simp [hcollect] at h
    have hsearch : search.outcome session memo = (.error f, memo') :=
      search_of_collect_error inPlace hkinds hcollect
    refine ⟨?_, ?_, (failsWith_search _ _).cause_of_error session hsearch⟩
    · have hundeleting : search.Asks fun r => r.isDeletion = false := by
        refine asks_search ?_ ?_ (fun _ _ _ => ?_) _ _ <;> rfl
      rw [collectPhase_of_tag htag hskip, requests_bind, hcollect, collect_eq_phases, requests_bind, hsearch,
        List.append_nil, List.append_nil]
      exact allowed_of_asks session hundeleting memo
    · have hunchanging : search.Asks Request.Unchanging := by
        refine asks_search ?_ ?_ (fun _ _ _ => ?_) _ _ <;> rfl
      obtain ⟨count, hcount⟩ := server_outcome_of_unchanging hunchanging memo
      rw [hsearch] at hcount
      exact ⟨count, hcount⟩
  · rw [collectPhase_of_none hcollects] at h
    simp at h

variable [Compression]

/-- The first phase of an update deletes nothing, whatever it comes to. -/
theorem asks_applyPhase_undeleting (table : RankTable) (objects : List Resource) :
    (applyPhase defaultScope options table objects).Asks fun r => r.isDeletion = false := by
  have hkinds : Request.isDeletion .kinds = false := rfl
  exact asks_applyPhase hkinds (fun _ _ => asks_applyOne hkinds rfl rfl fun _ _ => rfl) table objects

/-- An update that is refused asks for nothing. -/
theorem update_of_refused (hcheck : checkUpdate objects options.gcTag = .error f) (defaultScope : String)
    (table : RankTable) : update defaultScope options table objects = .fail f := by
  rw [update, hcheck]
  rfl

/-- An update that fails has deleted nothing, and the cluster is what it is once the inputs of known kinds
among the first ones, in creation order, are brought. When it is refused nothing was asked at all. -/
theorem update_fails_cleanly (inPlace : memo.server.InPlace) (hknows : KnowsKinds memo)
    (hwf : ∀ r ∈ objects, r.toJson.WellFormed)
    (h : (update defaultScope options table objects).outcome session memo = (.error f, memo')) :
    (∀ request ∈ (update defaultScope options table objects).requests session memo,
      request.isDeletion = false) ∧
    ∃ done, done <+: creationOrder table (KindInfo.scopes memo.server.kinds) objects ∧
      (∃ before report reached after,
        (applyAll defaultScope options (done.filter (·.isServed memo.server.kinds)) .empty).outcome session
          { memo with server := memo.server.asked before, kinds := some memo.server.kinds } =
            (.ok report, reached) ∧
        memo'.server = reached.server.asked after) ∧
      (f.cause.isRefusal = true → done = [] ∧ memo' = memo) := by
  cases hcheck : checkUpdate objects options.gcTag with
  | error g =>
    rw [update_of_refused hcheck] at h ⊢
    obtain rfl : memo = memo' := congrArg Prod.snd h
    exact ⟨fun _ hrequest => absurd hrequest List.not_mem_nil, [], List.nil_prefix,
      ⟨memo.server.discoveries, _, _, memo.server.discoveries, rfl, rfl⟩, fun _ => ⟨rfl, rfl⟩⟩
  | ok _ =>
    obtain ⟨count, haccepted⟩ := outcome_applyPhase_of_accepted hknows defaultScope table objects
    let asked : Memo MemoryCluster :=
      { memo with server := memo.server.asked count, kinds := some memo.server.kinds }
    let ordered := creationOrder table (KindInfo.scopes memo.server.kinds) objects
    have hphase : (applyPhase defaultScope options table objects).outcome session memo =
        (applyAll defaultScope options ordered .empty).outcome session asked := haccepted options hcheck
    have hundeleting : ∀ request ∈ (applyPhase defaultScope options table objects).requests session memo,
        request.isDeletion = false := allowed_of_asks session (asks_applyPhase_undeleting table objects) memo
    obtain ⟨done, reached, hdone, hupto, hend⟩ :=
      @appliedUpTo_of_applyAll asked options defaultScope ordered _ ⟨inPlace.rising, inPlace.sits⟩ rfl
        (fun r hr => hwf r ((creationOrder_perm table _ objects).mem_iff.mp hr)) .empty
    obtain ⟨report, hreport⟩ := hupto.reaches .empty
    rw [update_eq_phases, outcome_bind, hphase] at h
    rw [update_eq_phases, requests_bind, hphase]
    rcases happly : (applyAll defaultScope options ordered .empty).outcome session asked with
      ⟨g | applied, between⟩
    -- an input stops the first phase
    · rw [happly] at h hend
      simp only [Prod.mk.injEq, Except.error.injEq] at h
      obtain ⟨rfl, rfl⟩ := h
      obtain ⟨after, hafter⟩ := hend
      have hunrefused : Unrefused g.cause := (failsWith_applyAll _ _).cause_of_error session happly
      refine ⟨by simpa using hundeleting, done, hdone, ⟨count, report, reached, after, hreport, hafter⟩, ?_⟩
      exact fun hrefusal => absurd (hunrefused.symm.trans hrefusal) Bool.false_ne_true
    -- every input is brought, and the second phase fails
    · rw [happly] at h hend
      dsimp only at h hend
      subst hend
      obtain ⟨hnone, ⟨after, hafter⟩, hunrefused⟩ :=
        undeleting_of_collectPhase_error hupto.inPlace hupto.knows h
      refine ⟨fun request hrequest => ?_, done, hdone,
        ⟨count, report, between, after, hreport, hafter⟩, ?_⟩
      · exact (List.mem_append.mp hrequest).elim (hundeleting request) (hnone request)
      · exact fun hrefusal => absurd (hunrefused.symm.trans hrefusal) Bool.false_ne_true

end Update

set_option maxRecDepth 20000 in
/-- When the namespaces to search may not be listed, the input is brought and nothing is deleted, though
something carries the tag that is no longer among the inputs. -/
theorem update_fails_cleanly_in_search :
    let configMap (metadata : Fields) : Fields :=
      [("apiVersion", .string "v1"), ("kind", .string "ConfigMap"), ("metadata", .object metadata)]
    let fallen : Resource :=
      ⟨configMap [("annotations", .object [(AnnotationKey.gcTag, .string "t")]), ("name", .string "a"),
        ("namespace", .string "default")], by decide, by decide, by decide⟩
    let input : Resource := ⟨configMap [("name", .string "b")], by decide, by decide, by decide⟩
    let kind : KindInfo := ⟨⟨"", "v1", "ConfigMap"⟩, "configmaps", .namespaced, KindInfo.everyVerb⟩
    let cluster : MemoryCluster := ((MemoryCluster.empty MemoryCluster.standardKinds ⟨1, 28⟩).afterCreate
      kind fallen).forbidList "Namespace" none
    let options : UpdateOptions := ⟨true, some "t", false, .perNamespace, none, false, false⟩
    let p := update "default" options .standard [input]
    let (ended, memo') := p.outcome session { server := cluster }
    ended.toOption = none ∧ (∀ request ∈ p.requests session { server := cluster }, request.isDeletion = false) ∧
      memo'.server.objects.map (·.2.name) = ["a", "b"] := by
  intro configMap fallen input kind cluster options p
  have hcreated : ((MemoryCluster.empty MemoryCluster.standardKinds ⟨1, 28⟩).afterCreate kind fallen).Sound :=
    (MemoryCluster.sound_empty (by decide) _).create (by decide) (by decide)
  have hinPlace : cluster.InPlace := ⟨hcreated.keyed.inPlace.rising, hcreated.keyed.inPlace.sits⟩
  have hwf : ∀ r ∈ [input], r.toJson.WellFormed := List.forall_mem_singleton.mpr (by decide)
  have hfails : (p.outcome session { server := cluster }).1.toOption.isNone = true := by decide +kernel
  have hnames : (p.outcome session { server := cluster }).2.server.objects.map (·.2.name) = ["a", "b"] := by
    decide +kernel
  rcases hrun : p.outcome session { server := cluster } with ⟨f | report, memo'⟩
  · rw [hrun] at hnames
    exact ⟨rfl, (update_fails_cleanly hinPlace (.inl rfl) hwf hrun).1, hnames⟩
  · simp [hrun, Except.toOption] at hfails

end Program

end Reconcile
