import Reconcile.Proofs.Command.Converge
import Reconcile.Proofs.Command.Inspect
import Reconcile.Proofs.Command.Recalled
import Reconcile.Proofs.Comparison.Admitted

/-!
# Diffs of what the inputs mention

After an update the object in the place of an input holds what was submitted for it. A diff of what the
inputs mention then has nothing to show but two sorts of things: what the update itself has put over the
annotations and labels that an input states, and what the server has where an input has an empty object.
-/

namespace Reconcile

open MemoryCluster (keyOf session)

section Mentions

variable [Compression]

/-- The object in the place of an input holds what is submitted for it. -/
structure Held (defaultScope : String) (tag : Option String) (c : MemoryCluster) (r : Resource)
    (kind : KindInfo) (live : Resource) : Prop where
  served : KindInfo.find c.kinds r.gvk = some kind
  found : c.objects.get? (keyOf kind (r.submitted (targetScope defaultScope kind r) tag)) = some live
  holds : MergePatch.Holds (r.submitted (targetScope defaultScope kind r) tag).toJson live.toJson

namespace MemoryCluster

variable {c : MemoryCluster} {defaultScope : String} {tag : Option String} {r live : Resource}
  {kind : KindInfo}

/-- The update puts nothing over what an input states, and the object in the place of the input has an
empty object wherever the input has one. -/
def Agrees (c : MemoryCluster) (defaultScope : String) (tag : Option String) (r : Resource) : Prop :=
  r.Undisturbed tag ∧ ∃ kind live, KindInfo.find c.kinds r.gvk = some kind ∧
    c.counterpart? defaultScope kind r = some live ∧
    (r.placedIn (targetScope defaultScope kind r)).toJson.KeepsEmpty live.toJson

/-- In what it mentions an input matches the object that holds it exactly when the two agree. -/
theorem matches_iff_of_held (h : Held defaultScope tag c r kind live) (hwf : r.toJson.WellFormed)
    (hbare : (r.metadata.slot "annotations").get? AnnotationKey.lastApplied = none)
    (hplaced : targetScope defaultScope kind r ≠ some "") :
    c.Matches defaultScope .subset r ↔ c.Agrees defaultScope tag r := by
  let placed := r.placedIn (targetScope defaultScope kind r)
  have hlive : c.counterpart? defaultScope kind r = some live := by
    rw [counterpart?, Program.key_submitted hplaced tag, h.found]
  have hplacedWf : placed.toJson.WellFormed := Resource.wellFormed_placedIn _ hwf
  have hplacedBare : (placed.metadata.slot "annotations").get? AnnotationKey.lastApplied = none := by
    rw [Fields.slot_congr (Resource.get?_metadata_placedIn r _ (by decide)), hbare]
  have hcovers : placed.toJson.covers live.toJson = true ↔
      r.Undisturbed tag ∧ placed.toJson.KeepsEmpty live.toJson :=
    (Resource.covers_iff_of_stamped hplacedWf h.holds hplacedBare).trans
      (and_congr_left' (Resource.Undisturbed.placedIn_iff _))
  have hdiffers : (Comparison.between placed live .subset).1.hasDifferences = !placed.toJson.covers live.toJson :=
    congrArg Bool.not (Json.sameValue_trim hplacedWf)
  constructor
  · rintro ⟨other, found, hother, hfound, hsame⟩
    obtain rfl : kind = other := Option.some.inj (h.served.symm.trans hother)
    obtain rfl : live = found := Option.some.inj (hlive.symm.trans hfound)
    rw [hdiffers, Bool.not_eq_false'] at hsame
    obtain ⟨hundisturbed, hkeeps⟩ := hcovers.mp hsame
    exact ⟨hundisturbed, kind, live, h.served, hlive, hkeeps⟩
  · rintro ⟨hundisturbed, other, found, hother, hfound, hkeeps⟩
    obtain rfl : kind = other := Option.some.inj (h.served.symm.trans hother)
    obtain rfl : live = found := Option.some.inj (hlive.symm.trans hfound)
    refine ⟨kind, live, h.served, hlive, ?_⟩
    rw [hdiffers, Bool.not_eq_false']
    exact hcovers.mpr ⟨hundisturbed, hkeeps⟩

end MemoryCluster

namespace Program

variable {memo memo' later : Memo MemoryCluster} {options : UpdateOptions} {defaultScope : String}
  {table : RankTable} {objects : List Resource} {report : UpdateReport}

/-- After an update that succeeds every input is held in its place. -/
theorem held_of_update (keyed : memo.server.Keyed) (hknows : KnowsKinds memo) (hplain : ∀ r ∈ objects, r.Plain)
    (hserved : ∀ r ∈ objects, ∃ kind, KindInfo.find memo.server.kinds r.gvk = some kind)
    (hapart : objects.Pairwise fun a b => ¬Resource.SharesTarget memo.server.kinds defaultScope a b)
    (hdry : options.dryRun = false)
    (h : (update defaultScope options table objects).outcome session memo = (.ok report, memo')) :
    memo'.server.kinds = memo.server.kinds ∧
      ∀ r ∈ objects, ∃ kind live, Held defaultScope options.gcTag memo'.server r kind live := by
  obtain ⟨count, c, applied, hall, -, hcollect⟩ :=
    phases_of_update keyed hknows (fun r hr => (hplain r hr).submittable) hdry h
  have hasked : (memo.server.asked count).Keyed := keyed.congr rfl rfl
  have hperm := creationOrder_perm table (KindInfo.scopes memo.server.kinds) objects
  have hheld := hall.held hasked (fun r hr => hplain r (hperm.mem_iff.mp hr))
    (storedApart_of_targets hperm hapart)
  let between : Memo MemoryCluster := { memo with server := c, kinds := some c.kinds }
  have hspares : Spares (fun id => ∃ live, between.server.objects.get? id = some live ∧
      applied.seen.contains live = false) between memo' :=
    spares_collectPhase (hall.keyed hasked).inPlace rfl hcollect
  have hkinds : memo'.server.kinds = memo.server.kinds := hspares.kinds_eq.trans hall.kinds_eq
  refine ⟨hkinds, fun r hr => ?_⟩
  obtain ⟨kind, hkind⟩ := hserved r hr
  obtain ⟨live, hlive, hseen, hholds⟩ := hheld r (hperm.mem_iff.mpr hr) kind hkind
  exact ⟨kind, live, hkinds ▸ hkind, hspares.get?_of_seen hlive hseen, hholds⟩

/-- Once an update has succeeded, a diff of what its inputs mention succeeds exactly when every input
agrees with what is in its place, and then it says of one input after the other that it has no
differences, provided that no input goes to the empty namespace. -/
theorem diff_of_update_agrees_iff (keyed : memo.server.Keyed) (hknows : KnowsKinds memo)
    (hplain : ∀ r ∈ objects, r.Plain)
    (hbare : ∀ r ∈ objects, (r.metadata.slot "annotations").get? AnnotationKey.lastApplied = none)
    (hplaced : ∀ r ∈ objects, ∃ kind, KindInfo.find memo.server.kinds r.gvk = some kind ∧
      targetScope defaultScope kind r ≠ some "")
    (hapart : objects.Pairwise fun a b => ¬Resource.SharesTarget memo.server.kinds defaultScope a b)
    (hdry : options.dryRun = false)
    (h : (update defaultScope options table objects).outcome session memo = (.ok report, memo'))
    (hlater : later.server = memo'.server) (hknowsLater : KnowsKinds later) :
    let run := (diff defaultScope .subset objects).run session later
    (run.result = .ok () ↔ ∀ r ∈ objects, later.server.Agrees defaultScope options.gcTag r) ∧
      (run.result = .ok () → List.Forall₂ (Alike memo.server.kinds defaultScope) (alphabeticalOrder objects)
        (run.events.filter Event.isOutput)) := by
  obtain ⟨hkinds, hheld⟩ := held_of_update keyed hknows hplain
    (fun r hr => (hplaced r hr).imp fun _ h => h.1) hapart hdry h
  rw [← hlater] at hkinds hheld
  have hserved : ∀ r ∈ objects, (KindInfo.find later.server.kinds r.gvk).isSome = true := by
    intro r hr
    obtain ⟨kind, live, hlive⟩ := hheld r hr
    exact Option.isSome_of_eq_some hlive.served
  have hmatches : ∀ r ∈ objects,
      (later.server.Matches defaultScope .subset r ↔ later.server.Agrees defaultScope options.gcTag r) := by
    intro r hr
    obtain ⟨kind, live, hlive⟩ := hheld r hr
    obtain ⟨other, hother, hscope⟩ := hplaced r hr
    obtain rfl : kind = other := Option.some.inj ((hkinds ▸ hlive.served).symm.trans hother)
    exact MemoryCluster.matches_iff_of_held hlive (hplain r hr).wellFormed (hbare r hr) hscope
  have hdistinct := checkDuplicates_of_checkUpdate (checkUpdate_of_update h)
  intro run
  refine ⟨(diff_eq_ok_iff hknowsLater hdistinct hserved).trans (forall₂_congr hmatches), fun hok => ?_⟩
  exact hkinds ▸ alike_of_diff hknowsLater hdistinct hserved hok

end Program

end Mentions

namespace Program

set_option maxRecDepth 20000 in
/-- What a patch leaves of others does not count. -/
theorem diff_of_update_agrees_after_patch :
    let configMap (data metadata : Fields) : Fields :=
      [("apiVersion", .string "v1"), ("data", .object data), ("kind", .string "ConfigMap"),
        ("metadata", .object metadata)]
    let stored : Resource :=
      ⟨configMap [("foreign", .string "1")] [("name", .string "a"), ("namespace", .string "default")],
        by decide, by decide, by decide⟩
    let input : Resource :=
      ⟨configMap [("own", .string "2")] [("name", .string "a")], by decide, by decide, by decide⟩
    let kind : KindInfo := ⟨⟨"", "v1", "ConfigMap"⟩, "configmaps", .namespaced, KindInfo.everyVerb⟩
    let cluster : MemoryCluster :=
      (MemoryCluster.empty MemoryCluster.standardKinds ⟨1, 28⟩).afterCreate kind stored
    let options : UpdateOptions := ⟨true, some "t", false, .clusterScope, none, false, false⟩
    let run := (update "default" options .standard [input]).outcome session { server := cluster }
    run.1.toOption.map (·.applied) = some [(stored.identity, .patched)] ∧
      ((diff "default" .subset [input]).run session { server := run.2.server }).result = .ok () := by
  intro configMap stored input kind cluster options run
  have hsound : cluster.Sound := (MemoryCluster.sound_empty (by decide) _).create (by decide) (by decide)
  have hserved : KindInfo.find cluster.kinds input.gvk = some kind := by decide
  have hplain : ∀ r ∈ [input], r.Plain :=
    List.forall_mem_singleton.mpr ⟨by decide, by decide, by decide, by decide⟩
  have hbare : ∀ r ∈ [input], (r.metadata.slot "annotations").get? AnnotationKey.lastApplied = none :=
    List.forall_mem_singleton.mpr (by decide)
  have hplaced : ∀ r ∈ [input], ∃ kind, KindInfo.find cluster.kinds r.gvk = some kind ∧
      targetScope "default" kind r ≠ some "" :=
    List.forall_mem_singleton.mpr ⟨kind, hserved, by decide⟩
  have happlied : run.1.toOption.map (·.applied) = some [(stored.identity, .patched)] := by
    decide +kernel
  refine ⟨happlied, ?_⟩
  rcases hrun : run with ⟨f | report, memo'⟩
  · simp [hrun, Except.toOption] at happlied
  obtain ⟨hkinds, hheld⟩ := held_of_update hsound.keyed (.inl rfl) hplain
    (fun r hr => (hplaced r hr).imp fun _ h => h.1) (by simp) rfl hrun
  refine (@diff_of_update_agrees_iff _ { server := cluster } memo' { server := memo'.server }
    options "default" .standard [input] report hsound.keyed (.inl rfl) hplain hbare hplaced (by simp) rfl
    hrun rfl (.inl rfl)).1.mpr fun r hr => ?_
  obtain ⟨other, live, hlive⟩ := hheld r hr
  obtain rfl := List.mem_singleton.mp hr
  obtain rfl : kind = other := Option.some.inj (hserved.symm.trans (hkinds ▸ hlive.served))
  have hundisturbed : input.Undisturbed (some "t") :=
    ⟨by decide, fun _ _ => ⟨.of_missing (by decide) (by decide), .of_missing (by decide) (by decide)⟩⟩
  refine ⟨hundisturbed, kind, live, hlive.served, ?_, Json.keepsEmpty_of_emptyFree (by decide) _⟩
  rw [MemoryCluster.counterpart?, key_submitted (by decide) (some "t"), hlive.found]

set_option maxRecDepth 20000 in
/-- An empty map of annotations does not stay empty. -/
theorem diff_of_update_differs_in_empty_annotations :
    ¬∀ (memo memo' : Memo MemoryCluster) (defaultScope : String) (options : UpdateOptions)
      (table : RankTable) (objects : List Resource) (report : UpdateReport),
      memo.server.Keyed → KnowsKinds memo → (∀ r ∈ objects, r.Plain) →
      (∀ r ∈ objects, (r.metadata.slot "annotations").get? AnnotationKey.lastApplied = none) →
      (∀ r ∈ objects, ∃ kind, KindInfo.find memo.server.kinds r.gvk = some kind) →
      (objects.Pairwise fun a b => ¬Resource.SharesTarget memo.server.kinds defaultScope a b) →
      options.dryRun = false →
      (update defaultScope options table objects).outcome session memo = (.ok report, memo') →
      ((diff defaultScope .subset objects).run session memo').result.isOk = true := by
  intro hclaim
  let input : Resource :=
    ⟨[("apiVersion", .string "v1"), ("kind", .string "Namespace"),
      ("metadata", .object [("annotations", .object []), ("name", .string "a")])],
      by decide, by decide, by decide⟩
  let memo : Memo MemoryCluster :=
    { server := MemoryCluster.empty MemoryCluster.standardKinds ⟨1, 28⟩ }
  let options : UpdateOptions := ⟨true, none, false, .clusterScope, none, false, false⟩
  have hplain : ∀ r ∈ [input], r.Plain :=
    List.forall_mem_singleton.mpr ⟨by decide, by decide, by decide, by decide⟩
  have hbare : ∀ r ∈ [input], (r.metadata.slot "annotations").get? AnnotationKey.lastApplied = none :=
    List.forall_mem_singleton.mpr (by decide)
  have hserved : ∀ r ∈ [input], ∃ kind, KindInfo.find memo.server.kinds r.gvk = some kind :=
    List.forall_mem_singleton.mpr
      ⟨⟨⟨"", "v1", "Namespace"⟩, "namespaces", .cluster, KindInfo.everyVerb⟩, by decide⟩
  have hfirst : ((update "default" options .standard [input]).outcome session memo).1.isOk = true := by
    decide +kernel
  have hsecond : ((diff "default" .subset [input]).run session
      ((update "default" options .standard [input]).outcome session memo).2).result.isOk = false := by
    decide +kernel
  rcases hrun : (update "default" options .standard [input]).outcome session memo with ⟨f | report, memo'⟩
  · rw [hrun] at hfirst
    exact Bool.noConfusion hfirst
  · have hagain := hclaim memo memo' "default" options .standard [input] report
      (MemoryCluster.sound_empty (by decide) _).keyed (.inl rfl) hplain hbare hserved (by simp) rfl hrun
    rw [hrun, hagain] at hsecond
    exact Bool.noConfusion hsecond

end Program

end Reconcile
