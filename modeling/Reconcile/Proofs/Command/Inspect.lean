import Reconcile.Command.Diff
import Reconcile.Proofs.Cluster.Told
import Reconcile.Proofs.Command.Touched
import Reconcile.Proofs.Program.Events

/-!
# What a diff finds

A diff on a cluster in memory looks at every input, whatever it found before, and gives out one finding
for each: `Program.run_diffAll` is its run as a whole, read off the cluster. The verdict of the diff is
that of its findings, and as the order of listings does not depend on how the inputs were given, neither
does anything that a diff does.
-/

namespace Reconcile

open MemoryCluster (session)

/-- How an input compares with what the server has in its place. -/
structure Finding where
  differs : Bool
  /-- What is given out. -/
  events : List Event

/-- What a diff gives out for an input that does not differ. -/
def Alike (kinds : List KindInfo) (defaultScope : String) (r : Resource) (e : Event) : Prop :=
  ∃ kind, KindInfo.find kinds r.gvk = some kind ∧
    e = .output ("*** " ++ (r.placedIn (targetScope defaultScope kind r)).description (some kind) ++
      " has no differences\n")

/-- Whether something is given out, and not merely noticed. -/
def Event.isOutput : Event → Bool
  | .output _ => true
  | .notice _ => false

section Verdicts

variable [Compression]

/-- The finding for an object of a description, and for what the server has in its place. -/
def Finding.of (strategy : DiffStrategy) (object : Resource) (description : String) :
    Option Resource → Finding
  | some live =>
    let (comparison, notices) := Comparison.between object live strategy
    { differs := comparison.hasDifferences
      events := notices.map .notice ++
        [.output (if comparison.hasDifferences then comparison.unified description
          else "*** " ++ description ++ " has no differences\n")] }
  | none => { differs := true, events := [.output ("---- " ++ description ++ " doesn't exist on server\n")] }

namespace MemoryCluster

/-- The object that a cluster has in the place of an input of a kind. -/
def counterpart? (c : MemoryCluster) (defaultScope : String) (kind : KindInfo) (r : Resource) :
    Option Resource :=
  c.objects.get? (key kind (targetScope defaultScope kind r) r.name)

/-- What a diff finds about an input of a kind. -/
def finding (c : MemoryCluster) (defaultScope : String) (strategy : DiffStrategy) (kind : KindInfo)
    (r : Resource) : Finding :=
  let object := r.placedIn (targetScope defaultScope kind r)
  .of strategy object (object.description (some kind)) (c.counterpart? defaultScope kind r)

/-- What a diff finds about inputs of kinds that are served. -/
def findings (c : MemoryCluster) (defaultScope : String) (strategy : DiffStrategy)
    (objects : List Resource) : List Finding :=
  objects.filterMap fun r => (KindInfo.find c.kinds r.gvk).map (c.finding defaultScope strategy · r)

/-- The cluster has an object in the place of an input, and the two do not differ. -/
def Matches (c : MemoryCluster) (defaultScope : String) (strategy : DiffStrategy) (r : Resource) : Prop :=
  ∃ kind live, KindInfo.find c.kinds r.gvk = some kind ∧ c.counterpart? defaultScope kind r = some live ∧
    (Comparison.between (r.placedIn (targetScope defaultScope kind r)) live strategy).1.hasDifferences = false

variable {c : MemoryCluster} {defaultScope : String} {strategy : DiffStrategy} {kind : KindInfo}
  {r : Resource} {objects : List Resource}

/-- A finding tells no difference exactly when the input matches. -/
theorem finding_differs_iff (hkind : KindInfo.find c.kinds r.gvk = some kind) :
    (c.finding defaultScope strategy kind r).differs = false ↔ c.Matches defaultScope strategy r := by
  rw [finding, Matches]
  constructor
  · intro h
    cases hlive : c.counterpart? defaultScope kind r with
    | none => simp [hlive, Finding.of] at h
    | some live => exact ⟨kind, live, hkind, hlive, by simpa [hlive, Finding.of] using h⟩
  · rintro ⟨other, live, hother, hlive, hsame⟩
    obtain rfl := Option.some.inj (hkind.symm.trans hother)
    simpa [hlive, Finding.of] using hsame

/-- The first input is the first to be found out about. -/
theorem findings_cons (hkind : KindInfo.find c.kinds r.gvk = some kind) :
    c.findings defaultScope strategy (r :: objects) =
      c.finding defaultScope strategy kind r :: c.findings defaultScope strategy objects := by
  rw [findings, List.filterMap_cons, hkind, Option.map_some, findings]

/-- The findings agree exactly when each input matches. -/
theorem findings_any_iff (hserved : ∀ r ∈ objects, (KindInfo.find c.kinds r.gvk).isSome = true) :
    (c.findings defaultScope strategy objects).any (·.differs) = false ↔
      ∀ r ∈ objects, c.Matches defaultScope strategy r := by
  induction objects with
  | nil => simp [findings]
  | cons r rest ih =>
    obtain ⟨kind, hkind⟩ := Option.isSome_iff_exists.mp (hserved r List.mem_cons_self)
    have hrest := ih fun r hr => hserved r (List.mem_cons_of_mem _ hr)
    have hfirst := @finding_differs_iff _ c defaultScope strategy kind r hkind
    rw [findings_cons hkind, List.any_cons, Bool.or_eq_false_iff, hfirst, hrest, List.forall_mem_cons]

/-- Where nothing differs, each input is said to be alike, in order, and nothing else is given out. -/
theorem alike_of_findings (hserved : ∀ r ∈ objects, (KindInfo.find c.kinds r.gvk).isSome = true)
    (h : (c.findings defaultScope strategy objects).any (·.differs) = false) :
    List.Forall₂ (Alike c.kinds defaultScope) objects
      (((c.findings defaultScope strategy objects).flatMap (·.events)).filter Event.isOutput) := by
  induction objects with
  | nil => exact .nil
  | cons r rest ih =>
    obtain ⟨kind, hkind⟩ := Option.isSome_iff_exists.mp (hserved r List.mem_cons_self)
    rw [findings_cons hkind, List.any_cons, Bool.or_eq_false_iff] at h
    rw [findings_cons hkind, List.flatMap_cons, List.filter_append]
    obtain ⟨other, live, hother, hlive, hsame⟩ := (finding_differs_iff hkind).mp h.1
    obtain rfl : kind = other := Option.some.inj (hkind.symm.trans hother)
    have hline : (c.finding defaultScope strategy kind r).events.filter Event.isOutput =
        [.output ("*** " ++ (r.placedIn (targetScope defaultScope kind r)).description (some kind) ++
          " has no differences\n")] := by
      rw [finding, hlive, Finding.of]
      dsimp only
      rw [hsame, List.filter_append, List.filter_eq_nil_iff.mpr]
      · rfl
      · intro e he
        obtain ⟨n, -, rfl⟩ := List.mem_map.mp he
        exact Bool.false_ne_true
    rw [hline]
    exact .cons ⟨kind, hkind, rfl⟩ (ih (fun r hr => hserved r (List.mem_cons_of_mem _ hr)) h.2)

end MemoryCluster

namespace Program

variable {memo : Memo MemoryCluster} {defaultScope : String} {strategy : DiffStrategy} {kind : KindInfo}
  {r : Resource} {objects other : List Resource}

/-- What a diff reports once the server answered what it has in the place of an object. -/
def reportOn (strategy : DiffStrategy) (object : Resource) (description : String) :
    Except ApiError Resource → Program Bool
  | .ok live => do
    let (comparison, notices) := Comparison.between object live strategy
    tellAll notices
    if comparison.hasDifferences then
      print (comparison.unified description)
      return true
    else
      print ("*** " ++ description ++ " has no differences\n")
      return false
  | .error e =>
    if e.isNotFound then do
      print ("---- " ++ description ++ " doesn't exist on server\n")
      return true
    else .fail ((Failure.ofCause (.api e)).inContext ("getting " ++ description))

/-- A diff of one input finds out its kind, asks for what is there, and reports on the two. -/
theorem diffOne_eq (defaultScope : String) (strategy : DiffStrategy) (r : Resource) :
    diffOne defaultScope strategy r = (do
      let kind ← (resolve r.gvk).inContext r.identity.text
      let object := r.placedIn (targetScope defaultScope kind r)
      let description ← describe object
      let answer ← request (.get kind (targetScope defaultScope kind r) object.name)
      reportOn strategy object description answer) := by
  rw [diffOne]
  congr 1
  funext kind
  dsimp only
  congr 1
  funext description
  congr 1
  funext answer
  cases answer <;> rfl

/-- A report asks for nothing. -/
theorem asks_reportOn {allowed : Request → Prop} (strategy : DiffStrategy) (object : Resource)
    (description : String) (answer : Except ApiError Resource) :
    (reportOn strategy object description answer).Asks allowed := by
  cases answer with
  | error e =>
    rw [reportOn]
    split <;> trivial
  | ok live =>
    rw [reportOn]
    rcases Comparison.between object live strategy with ⟨comparison, notices⟩
    refine asks_bind (asks_tellAll notices) fun _ => ?_
    split <;> trivial

/-- A diff asks for the kinds, and for the objects in the places of its inputs. -/
theorem asks_diff {allowed : Request → Prop} (hkinds : allowed .kinds)
    (hget : ∀ kind scope name, allowed (.get kind scope name)) (objects : List Resource) :
    (diff defaultScope strategy objects).Asks allowed := by
  have hone (r : Resource) : (diffOne defaultScope strategy r).Asks allowed := by
    rw [diffOne_eq]
    refine asks_bind (asks_inContext (asks_resolve hkinds _)) fun kind => ?_
    refine asks_bind (asks_describe hkinds _) fun description => ?_
    exact asks_bind (asks_request (hget _ _ _)) fun answer => asks_reportOn strategy _ description answer
  have hall (objects : List Resource) : (diffAll defaultScope strategy objects).Asks allowed := by
    induction objects with
    | nil => exact asks_pure false
    | cons r rest ih => exact asks_bind (hone r) fun _ => asks_bind ih fun _ => asks_pure _
  refine asks_bind (asks_ofExcept _) fun _ => asks_bind (hall _) fun differs => ?_
  split <;> trivial

/-- A report is the finding about an object and what the cluster has in its place. -/
theorem run_reportOn (strategy : DiffStrategy) (object : Resource) (description : String)
    (kind : KindInfo) (scope : Option String) (name : String) (c : MemoryCluster)
    (memo : Memo MemoryCluster) :
    (reportOn strategy object description (c.get kind scope name)).run session memo =
      let finding :=
        Finding.of strategy object description (c.objects.get? (MemoryCluster.key kind scope name))
      ⟨.ok finding.differs, finding.events, memo⟩ := by
  rw [MemoryCluster.get]
  cases c.objects.get? (MemoryCluster.key kind scope name) with
  | none => rfl
  | some live =>
    dsimp only [Finding.of, reportOn]
    rcases Comparison.between object live strategy with ⟨comparison, notices⟩
    refine run_bind_of_ok session (run_tellAll session notices memo) ?_
    cases hdiffers : comparison.hasDifferences with
    | false =>
      rw [if_neg Bool.false_ne_true, if_neg Bool.false_ne_true]
      rfl
    | true =>
      rw [if_pos rfl, if_pos rfl]
      rfl

/-- What a diff does with one input of a kind that is served, and that it looks at the object for which
the input stands. -/
theorem run_diffOne (hknows : KnowsKinds memo) (hkind : KindInfo.find memo.server.kinds r.gvk = some kind) :
    ∃ count, (diffOne defaultScope strategy r).run session memo =
      ⟨.ok (memo.server.finding defaultScope strategy kind r).differs,
        (memo.server.finding defaultScope strategy kind r).events,
        { memo with server := memo.server.asked count, kinds := some memo.server.kinds }⟩ ∧
      (diffOne defaultScope strategy r).touched session memo =
        [(MemoryCluster.key kind (targetScope defaultScope kind r) r.name).normal] := by
  obtain ⟨count, hfound⟩ := outcome_resolve_of_knows hknows hkind
  let told : Memo MemoryCluster :=
    { memo with server := memo.server.asked count, kinds := some memo.server.kinds }
  let object := r.placedIn (targetScope defaultScope kind r)
  have hresolve : ((resolve r.gvk).inContext r.identity.text).outcome session memo = (.ok kind, told) :=
    (outcome_inContext_eq_ok session).mpr hfound
  have hdescribe : (describe object).outcome session told = (.ok (object.description (some kind)), told) := by
    rw [outcome_describe MemoryCluster.server (show told.kinds = some _ from rfl), Resource.gvk_placedIn, hkind]
  have hget : (request (.get kind (targetScope defaultScope kind r) object.name)).outcome session told =
      (.ok (memo.server.get kind (targetScope defaultScope kind r) r.name), told) := by
    rw [outcome_request, Resource.name_placedIn]
    rfl
  refine ⟨count, ?_, ?_⟩
  · rw [diffOne_eq]
    exact run_bind_of_ok session
      ((silent_inContext _ (silent_resolve r.gvk)).run_of_outcome hresolve)
      (run_bind_of_ok session ((silent_describe object).run_of_outcome hdescribe)
        (run_bind_of_ok session ((silent_request _).run_of_outcome hget)
          (run_reportOn strategy object _ kind _ r.name memo.server told)))
  -- reporting only writes, so the one object that is touched is that which was looked up
  · have hreport := touched_eq_nil session (asks_reportOn strategy object
      (object.description (some kind)) (memo.server.get kind (targetScope defaultScope kind r) r.name)) told
    rw [diffOne_eq, touched_bind, hresolve,
      touched_eq_nil _ (asks_inContext (asks_resolve Request.touchesNone_kinds _)), List.nil_append]
    dsimp only
    rw [touched_bind, hdescribe, touched_eq_nil _ (asks_describe Request.touchesNone_kinds _),
      List.nil_append]
    dsimp only
    rw [touched_bind, hget, touched, requests_request]
    dsimp only
    rw [hreport, Resource.name_placedIn]
    rfl

/-- What a diff does with its inputs: it looks at each of them, whatever it found before. -/
theorem run_diffAll (hknows : KnowsKinds memo)
    (hserved : ∀ r ∈ objects, (KindInfo.find memo.server.kinds r.gvk).isSome = true) :
    ∃ final, (diffAll defaultScope strategy objects).run session memo =
      ⟨.ok ((memo.server.findings defaultScope strategy objects).any (·.differs)),
        (memo.server.findings defaultScope strategy objects).flatMap (·.events), final⟩ ∧
      (diffAll defaultScope strategy objects).touched session memo =
        objects.filterMap fun r => (r.target? memo.server.kinds defaultScope).map Identity.normal := by
  induction objects generalizing memo with
  | nil => exact ⟨memo, rfl, rfl⟩
  | cons r rest ih =>
    obtain ⟨kind, hkind⟩ := Option.isSome_iff_exists.mp (hserved r List.mem_cons_self)
    obtain ⟨count, hfirst, htouched⟩ := @run_diffOne _ memo defaultScope strategy kind r hknows hkind
    obtain ⟨final, hlater, hothers⟩ := @ih
      { memo with server := memo.server.asked count, kinds := some memo.server.kinds } (.inr rfl)
      fun r hr => hserved r (List.mem_cons_of_mem _ hr)
    refine ⟨final, ?_, ?_⟩
    · rw [MemoryCluster.findings_cons hkind, List.any_cons, List.flatMap_cons, diffAll]
      refine run_bind_of_ok session hfirst ?_
      exact List.append_nil (List.flatMap _ _) ▸ run_bind_of_ok session hlater rfl
    · have hhere : (r.target? memo.server.kinds defaultScope).map Identity.normal =
          some (MemoryCluster.key kind (targetScope defaultScope kind r) r.name).normal := by
        rw [Resource.target?_eq_key hkind, Option.map_some]
      rw [List.filterMap_cons, hhere, diffAll, touched_bind, htouched, outcome, hfirst]
      dsimp only
      rw [touched_bind, outcome, hlater, hothers]
      exact congrArg _ (List.append_nil _)

/-- A diff does the same in whatever order distinct objects are given. -/
theorem diff_eq_of_perm (hdistinct : checkDuplicates objects = .ok ()) (hperm : other.Perm objects) :
    diff defaultScope strategy other = diff defaultScope strategy objects := by
  have hnodup := (checkDuplicates_iff objects).mp hdistinct
  have hother : checkDuplicates other = .ok () :=
    (checkDuplicates_iff other).mpr ((hperm.map Resource.identity).nodup_iff.mpr hnodup)
  rw [diff, diff, hdistinct, hother, alphabeticalOrder_eq_of_perm hnodup hperm]

/-- What a diff of distinct objects of kinds that are served comes to. -/
theorem run_diff (hknows : KnowsKinds memo) (hdistinct : checkDuplicates objects = .ok ())
    (hserved : ∀ r ∈ objects, (KindInfo.find memo.server.kinds r.gvk).isSome = true) :
    let findings := memo.server.findings defaultScope strategy (alphabeticalOrder objects)
    ∃ final, (diff defaultScope strategy objects).run session memo =
      ⟨if findings.any (·.differs) then .error Cause.differences else .ok (),
        findings.flatMap (·.events), final⟩ ∧
      (diff defaultScope strategy objects).touched session memo =
        (alphabeticalOrder objects).filterMap fun r =>
          (r.target? memo.server.kinds defaultScope).map Identity.normal := by
  have hsorted : ∀ r ∈ alphabeticalOrder objects, (KindInfo.find memo.server.kinds r.gvk).isSome = true :=
    fun r hr => hserved r ((alphabeticalOrder_perm objects).mem_iff.mp hr)
  obtain ⟨final, hall, htouched⟩ := @run_diffAll _ memo defaultScope strategy _ hknows hsorted
  intro findings
  have hend : (if findings.any (·.differs) then .fail Cause.differences else pure () : Program Unit).run
      session final = ⟨if findings.any (·.differs) then .error Cause.differences else .ok (), [], final⟩ := by
    split <;> rfl
  refine ⟨final, ?_, ?_⟩
  · rw [diff, hdistinct]
    show (diffAll _ _ _ >>= _).run session memo = _
    exact List.append_nil (List.flatMap _ _) ▸ run_bind_of_ok session hall hend
  · rw [diff, hdistinct]
    show (diffAll _ _ _ >>= _).touched session memo = _
    rw [touched_bind, htouched, outcome, hall]
    have hnothing : (if findings.any (·.differs) then .fail Cause.differences else pure () :
        Program Unit).Asks Request.TouchesNone := by
      split <;> trivial
    exact (congrArg _ (touched_eq_nil session hnothing final)).trans (List.append_nil _)

section Verdict

variable (hknows : KnowsKinds memo) (hdistinct : checkDuplicates objects = .ok ())
  (hserved : ∀ r ∈ objects, (KindInfo.find memo.server.kinds r.gvk).isSome = true)

include hknows hdistinct hserved

/-- A diff succeeds exactly when no finding tells a difference. -/
theorem diff_eq_ok_iff_findings :
    ((diff defaultScope strategy objects).run session memo).result = .ok () ↔
      (memo.server.findings defaultScope strategy (alphabeticalOrder objects)).any (·.differs) = false := by
  obtain ⟨final, hrun, -⟩ := @run_diff _ memo defaultScope strategy objects hknows hdistinct hserved
  rw [hrun]
  dsimp only
  split <;> simp_all

/-- A diff succeeds exactly when each of its inputs has its match. -/
theorem diff_eq_ok_iff :
    ((diff defaultScope strategy objects).run session memo).result = .ok () ↔
      ∀ r ∈ objects, memo.server.Matches defaultScope strategy r := by
  have hsorted (r : Resource) : r ∈ alphabeticalOrder objects ↔ r ∈ objects :=
    (alphabeticalOrder_perm objects).mem_iff
  rw [diff_eq_ok_iff_findings hknows hdistinct hserved,
    MemoryCluster.findings_any_iff fun r hr => hserved r ((hsorted r).mp hr)]
  exact forall_congr' fun r => imp_congr_left (hsorted r)

/-- A diff that succeeds says of one input after the other that it is alike, and gives out nothing else. -/
theorem alike_of_diff (h : ((diff defaultScope strategy objects).run session memo).result = .ok ()) :
    List.Forall₂ (Alike memo.server.kinds defaultScope) (alphabeticalOrder objects)
      (((diff defaultScope strategy objects).run session memo).events.filter Event.isOutput) := by
  obtain ⟨final, hrun, -⟩ := @run_diff _ memo defaultScope strategy objects hknows hdistinct hserved
  rw [hrun]
  exact MemoryCluster.alike_of_findings
    (fun r hr => hserved r ((alphabeticalOrder_perm objects).mem_iff.mp hr))
    ((diff_eq_ok_iff_findings hknows hdistinct hserved).mp h)

end Verdict

/-- The verdict of a diff is exact: it succeeds exactly when every input has a counterpart on the
cluster from which it does not differ, and tells differences otherwise. Whatever it finds, it looks at
the object of every input in the order of listings and gives out one finding each. It does the same in
whatever order the inputs are given, and leaves the cluster as it is. -/
theorem diff_verdict_exact (hknows : KnowsKinds memo) (hdistinct : checkDuplicates objects = .ok ())
    (hserved : ∀ r ∈ objects, (KindInfo.find memo.server.kinds r.gvk).isSome = true)
    (strategy : DiffStrategy) :
    let run := (diff defaultScope strategy objects).run session memo
    (run.result = .ok () ↔ ∀ r ∈ objects, memo.server.Matches defaultScope strategy r) ∧
      (run.result = .ok () ∨ run.result = .error Cause.differences) ∧
      run.events = (memo.server.findings defaultScope strategy (alphabeticalOrder objects)).flatMap
        (·.events) ∧
      (diff defaultScope strategy objects).touched session memo =
        (alphabeticalOrder objects).filterMap (fun r =>
          (r.target? memo.server.kinds defaultScope).map Identity.normal) ∧
      (∀ other : List Resource, other.Perm objects →
        (diff defaultScope strategy other).run session memo = run) ∧
      ∃ count, run.state.server = memo.server.asked count := by
  intro run
  obtain ⟨final, hrun, htouched⟩ := @run_diff _ memo defaultScope strategy objects hknows hdistinct hserved
  refine ⟨diff_eq_ok_iff hknows hdistinct hserved, ?_, congrArg Run.events hrun, htouched,
    fun other hperm => ?_, ?_⟩
  · rw [show run.result = _ from congrArg Run.result hrun]
    split
    · exact .inr rfl
    · exact .inl rfl
  · rw [diff_eq_of_perm hdistinct hperm]
  · exact server_outcome_of_unchanging (asks_diff Request.unchanging_kinds (fun _ _ _ => rfl) objects) memo

end Program

end Verdicts

namespace Program

/-- An object that is there and one that is missing, given in either order. -/
theorem diff_verdict_exact_of_missing :
    let configMap (name : String) : Fields :=
      [("apiVersion", .string "v1"), ("kind", .string "ConfigMap"),
        ("metadata", .object [("name", .string name)])]
    let present : Resource := ⟨configMap "a", by decide, by decide, by decide⟩
    let absent : Resource := ⟨configMap "b", by decide, by decide, by decide⟩
    let kind : KindInfo := ⟨⟨"", "v1", "ConfigMap"⟩, "configmaps", .namespaced, KindInfo.everyVerb⟩
    let cluster : MemoryCluster :=
      ((MemoryCluster.empty MemoryCluster.standardKinds ⟨1, 28⟩).create kind (some "default") present).2
    let run := (diff "default" .subset [absent, present]).run session { server := cluster }
    run.result = .error Cause.differences ∧
      (diff "default" .subset [present, absent]).run session { server := cluster } = run := by
  intro configMap present absent kind cluster run
  have hdistinct : checkDuplicates [absent, present] = .ok () := (checkDuplicates_iff _).mpr (by decide)
  have hserved : ∀ r ∈ [absent, present], (KindInfo.find cluster.kinds r.gvk).isSome = true := by decide
  obtain ⟨hexact, hverdict, -, -, hperm, -⟩ :=
    @diff_verdict_exact _ { server := cluster } "default" [absent, present] (.inl rfl) hdistinct hserved .subset
  refine ⟨hverdict.resolve_left fun hok => ?_, hperm _ (List.Perm.swap absent present [])⟩
  obtain ⟨found, live, hfound, hlive, -⟩ := hexact.mp hok absent List.mem_cons_self
  have hkind : KindInfo.find cluster.kinds absent.gvk = some kind := by decide
  obtain rfl := Option.some.inj (hkind.symm.trans hfound)
  have hnone : (cluster.counterpart? "default" kind absent).isNone = true := by decide +kernel
  simp [hlive] at hnone

end Program

end Reconcile
