import Reconcile.Proofs.Command.Converge
import Reconcile.Proofs.Command.Inspect
import Reconcile.Proofs.Command.Recalled
import Reconcile.Proofs.Comparison.Stripped
import Reconcile.Proofs.Snapshot.RoundTrip

/-!
# Diffs after an update

An update leaves a snapshot of every input in its place, and a diff by what was applied last reads the
snapshots back. Without the tag they are the inputs, so the diff has nothing to show.
-/

namespace Reconcile

open MemoryCluster (session)

namespace Resource

/-- An input that an update can record: it carries no snapshot of its own. -/
structure Clean (r : Resource) : Prop extends r.Recordable where
  bare : (r.metadata.slot "annotations").get? AnnotationKey.lastApplied = none

/-- An input that can be recorded can be recorded in the namespace where it belongs. -/
theorem Clean.placedIn {r : Resource} (h : r.Clean) (target : Option String) : (r.placedIn target).Clean where
  toRecordable := h.toRecordable.placedIn target
  bare := by
    rw [Fields.slot_congr (get?_metadata_placedIn r target (by decide)), h.bare]

end Resource

section LastApplied

variable [Compression]

/-- The snapshot of an object is read back as what was put into it, unless that is nested too deep for
a reader. -/
def Snapshot.Readable (r : Resource) : Prop :=
  (r.removeAnnotation AnnotationKey.lastApplied).toJson.depth ≤ 127 →
    decode (ofResource r) = .ok (r.removeAnnotation AnnotationKey.lastApplied).toJson

/-- Where compressing loses nothing, the snapshot of an object is read back. -/
theorem Snapshot.readable_of_lossless (lossless : Compression.Lossless) {r : Resource}
    (hwf : r.toJson.WellFormed)
    (hfloats : ∀ x ∈ (r.removeAnnotation AnnotationKey.lastApplied).toJson.floats, x.ReadsBack) :
    Readable r :=
  fun hdepth => decode_ofResource lossless hwf hdepth hfloats

namespace Resource

variable {r live : Resource} {target tag : Option String}

/-- What is read off an object that carries the snapshot of another. -/
theorem lastAppliedOf_of_snapshot (h : r.Recordable) (hreadable : Snapshot.Readable r)
    (hsnapshot : live.annotation? AnnotationKey.lastApplied = some (Snapshot.ofResource r)) :
    lastAppliedOf live = ((r.removeAnnotation AnnotationKey.lastApplied).toJson, []) := by
  have hdepth : (r.removeAnnotation AnnotationKey.lastApplied).toJson.depth ≤ 127 :=
    Nat.le_trans (h.unannotated _).depth (by decide)
  have htext : Snapshot.text? live = some (Snapshot.ofResource r) := by
    rw [Snapshot.text?, hsnapshot, Option.some_or]
  rw [lastAppliedOf, Snapshot.lastApplied, htext]
  dsimp only
  rw [hreadable hdepth]
  rfl

/-- By what was applied last, a config does not differ from an object that carries its snapshot. -/
theorem between_of_snapshot (h : r.Clean) (hreadable : Snapshot.Readable (r.marked tag))
    (hsnapshot : live.annotation? AnnotationKey.lastApplied = some (Snapshot.ofResource (r.marked tag))) :
    (Comparison.between r live .lastApplied).1.hasDifferences = false ∧
      (Comparison.between r live .lastApplied).2 = [] := by
  rw [Comparison.between, lastAppliedOf_of_snapshot (h.toRecordable.marked tag) hreadable hsnapshot]
  refine ⟨?_, rfl⟩
  simp only [Comparison.make, Comparison.hasDifferences, stripGcTag_recorded h.toRecordable h.bare,
    Json.sameValue_self (Json.wellFormed_stripGcTag h.wellFormed), Bool.not_true]

end Resource

namespace MemoryCluster

variable {c : MemoryCluster} {defaultScope : String} {tag : Option String}

/-- An input that is recalled as it was recorded does not differ. -/
theorem finding_of_recalled {r live : Resource} {kind : KindInfo}
    (h : Recalled defaultScope tag c r kind live) (hclean : r.Clean)
    (hplaced : targetScope defaultScope kind r ≠ some "")
    (hreadable : Snapshot.Readable ((r.placedIn (targetScope defaultScope kind r)).marked tag)) :
    c.finding defaultScope .lastApplied kind r =
      { differs := false
        events := [.output ("*** " ++ (r.placedIn (targetScope defaultScope kind r)).description (some kind) ++
          " has no differences\n")] } := by
  have hlive : c.counterpart? defaultScope kind r = some live := by
    rw [counterpart?, Program.key_submitted hplaced tag, h.found]
  obtain ⟨hsame, hquiet⟩ := Resource.between_of_snapshot (hclean.placedIn _) hreadable h.snapshot
  rw [finding, hlive, Finding.of]
  dsimp only
  rw [hsame, hquiet]
  rfl

/-- No input differs that is recalled as it was recorded. -/
theorem findings_of_recalled {objects : List Resource}
    (heach : ∀ r ∈ objects, r.Clean ∧ ∃ kind live, Recalled defaultScope tag c r kind live ∧
      targetScope defaultScope kind r ≠ some "" ∧
      Snapshot.Readable ((r.placedIn (targetScope defaultScope kind r)).marked tag)) :
    (c.findings defaultScope .lastApplied objects).any (·.differs) = false ∧
      List.Forall₂ (Alike c.kinds defaultScope) objects
        ((c.findings defaultScope .lastApplied objects).flatMap (·.events)) := by
  induction objects with
  | nil => exact ⟨rfl, .nil⟩
  | cons r rest ih =>
    obtain ⟨hclean, kind, live, hrecalled, hplaced, hreadable⟩ := heach r List.mem_cons_self
    obtain ⟨hsame, hevents⟩ := ih fun x hx => heach x (List.mem_cons_of_mem _ hx)
    rw [findings_cons hrecalled.served, finding_of_recalled hrecalled hclean hplaced hreadable,
      List.any_cons, List.flatMap_cons]
    exact ⟨hsame, .cons ⟨kind, hrecalled.served, rfl⟩ hevents⟩

end MemoryCluster

namespace Program

variable {memo : Memo MemoryCluster} {defaultScope : String}

/-- Once an update has succeeded, a diff of its inputs by what was applied last finds them all alike:
it succeeds, says of one input after the other that it has no differences, and leaves every object as
it is, provided that no input goes to the empty namespace. -/
theorem diff_of_update_finds_no_differences {memo' later : Memo MemoryCluster} {options : UpdateOptions}
    {table : RankTable} {objects : List Resource} {report : UpdateReport} (inPlace : memo.server.InPlace)
    (hknows : KnowsKinds memo) (hclean : ∀ r ∈ objects, r.Clean)
    (hplaced : ∀ r ∈ objects, ∃ kind, KindInfo.find memo.server.kinds r.gvk = some kind ∧
      targetScope defaultScope kind r ≠ some "")
    (hreadable : ∀ r ∈ objects, ∀ kind, KindInfo.find memo.server.kinds r.gvk = some kind →
      Snapshot.Readable ((r.placedIn (targetScope defaultScope kind r)).marked options.gcTag))
    (hapart : objects.Pairwise fun a b => ¬Resource.SharesTarget memo.server.kinds defaultScope a b)
    (hdry : options.dryRun = false)
    (h : (update defaultScope options table objects).outcome session memo = (.ok report, memo'))
    (hlater : later.server = memo'.server) (hknowsLater : KnowsKinds later) :
    ∃ events final, (diff defaultScope .lastApplied objects).run session later = ⟨.ok (), events, final⟩ ∧
      List.Forall₂ (Alike memo.server.kinds defaultScope) (alphabeticalOrder objects) events ∧
      final.server.objects = memo'.server.objects := by
  obtain ⟨hkinds, hrecalled⟩ := recalled_of_update inPlace hknows (fun r hr => (hclean r hr).wellFormed)
    (fun r hr => (hplaced r hr).imp fun _ h => h.1) hapart hdry h
  rw [← hlater] at hkinds hrecalled ⊢
  have heach : ∀ r ∈ alphabeticalOrder objects, r.Clean ∧
      ∃ kind live, Recalled defaultScope options.gcTag later.server r kind live ∧
        targetScope defaultScope kind r ≠ some "" ∧
        Snapshot.Readable ((r.placedIn (targetScope defaultScope kind r)).marked options.gcTag) := by
    intro r hr
    have hr := (alphabeticalOrder_perm objects).mem_iff.mp hr
    obtain ⟨kind, live, hlive⟩ := hrecalled r hr
    obtain ⟨other, hother, hscope⟩ := hplaced r hr
    have hserved := hkinds ▸ hlive.served
    obtain rfl : other = kind := Option.some.inj (hother.symm.trans hserved)
    exact ⟨hclean r hr, other, live, hlive, hscope, hreadable r hr other hother⟩
  have hserved : ∀ r ∈ objects, (KindInfo.find later.server.kinds r.gvk).isSome = true := by
    intro r hr
    obtain ⟨kind, live, hlive⟩ := hrecalled r hr
    exact Option.isSome_of_eq_some hlive.served
  obtain ⟨hsame, hevents⟩ := MemoryCluster.findings_of_recalled heach
  obtain ⟨final, hrun, -⟩ := @run_diff _ later defaultScope .lastApplied objects hknowsLater
    (checkDuplicates_of_checkUpdate (checkUpdate_of_update h)) hserved
  rw [hsame, if_neg Bool.false_ne_true] at hrun
  obtain ⟨count, hcount⟩ := server_outcome_of_unchanging
    (@asks_diff _ defaultScope .lastApplied _ Request.unchanging_kinds (fun _ _ _ => rfl) objects) later
  rw [outcome, hrun] at hcount
  exact ⟨_, final, hrun, hkinds ▸ hevents, congrArg (·.objects) hcount⟩

end Program

end LastApplied

namespace Program

set_option maxRecDepth 20000 in
/-- A config that states a tag by hand is alike once an update has patched the object that was there. -/
theorem diff_of_update_finds_no_differences_after_patch :
    let nameSpace (metadata : Fields) : Fields :=
      [("apiVersion", .string "v1"), ("kind", .string "Namespace"), ("metadata", .object metadata)]
    let stored : Resource :=
      ⟨nameSpace [("labels", .object [("app", .string "x")]), ("name", .string "a")],
        by decide, by decide, by decide⟩
    let input : Resource :=
      ⟨nameSpace [("labels", .object [(Label.gcTag, .string "t")]), ("name", .string "a")],
        by decide, by decide, by decide⟩
    let kind : KindInfo := ⟨⟨"", "v1", "Namespace"⟩, "namespaces", .cluster, KindInfo.everyVerb⟩
    let cluster : MemoryCluster :=
      (MemoryCluster.empty MemoryCluster.standardKinds ⟨1, 28⟩).afterCreate kind stored
    let options : UpdateOptions := ⟨true, none, false, .clusterScope, none, false, false⟩
    let run := (update "default" options .standard [input]).outcome session { server := cluster }
    run.1.toOption.map (·.applied) = some [(stored.identity, .patched)] ∧
      ∃ final, (diff "default" .lastApplied [input]).run session { server := run.2.server } =
        ⟨.ok (), [.output "*** namespaces a has no differences\n"], final⟩ := by
  intro nameSpace stored input kind cluster options run
  have hempty : (MemoryCluster.empty MemoryCluster.standardKinds ⟨1, 28⟩).Sound :=
    MemoryCluster.sound_empty (by decide) _
  have hsound : cluster.Sound := hempty.create (by decide) (by decide)
  have hclean : ∀ r ∈ [input], r.Clean := by
    intro r hr
    obtain rfl := List.mem_singleton.mp hr
    exact ⟨⟨by decide, by decide, by decide, by decide⟩, by decide⟩
  have hserved : KindInfo.find cluster.kinds input.gvk = some kind := by decide
  have hplaced : ∀ r ∈ [input], ∃ kind, KindInfo.find cluster.kinds r.gvk = some kind ∧
      targetScope "default" kind r ≠ some "" := by
    intro r hr
    obtain rfl := List.mem_singleton.mp hr
    exact ⟨kind, hserved, by decide⟩
  have hreadable : ∀ r ∈ [input], ∀ kind, KindInfo.find cluster.kinds r.gvk = some kind →
      Snapshot.Readable ((r.placedIn (targetScope "default" kind r)).marked options.gcTag) := by
    intro r hr other hother
    obtain rfl := List.mem_singleton.mp hr
    obtain rfl := Option.some.inj (hserved.symm.trans hother)
    exact Snapshot.readable_of_lossless Gzip.lossless (by decide) (by decide)
  have happlied : run.1.toOption.map (·.applied) = some [(stored.identity, .patched)] := by
    decide +kernel
  refine ⟨happlied, ?_⟩
  rcases hrun : run with ⟨f | report, memo'⟩
  · simp [hrun, Except.toOption] at happlied
  · obtain ⟨events, final, hdiff, hevents, -⟩ :=
      @diff_of_update_finds_no_differences _ { server := cluster } "default" memo'
        { server := memo'.server } options .standard [input] report hsound.keyed.inPlace (.inl rfl) hclean
        hplaced hreadable (by simp) rfl hrun rfl (.inl rfl)
    have hsingle : alphabeticalOrder [input] = [input] := List.mergeSort_singleton input
    rw [hsingle] at hevents
    cases hevents with
    | cons halike hrest =>
      obtain ⟨other, hother, rfl⟩ := halike
      obtain rfl := Option.some.inj (hserved.symm.trans hother)
      cases hrest
      exact ⟨final, hdiff⟩

set_option maxRecDepth 20000 in
/-- In the empty namespace an object is created where a diff does not look for it. -/
theorem diff_of_update_misses_in_empty_scope :
    ¬∀ (memo memo' : Memo MemoryCluster) (defaultScope : String) (options : UpdateOptions)
      (table : RankTable) (objects : List Resource) (report : UpdateReport),
      memo.server.Sound → KnowsKinds memo → (∀ r ∈ objects, r.Clean) →
      (∀ r ∈ objects, ∃ kind, KindInfo.find memo.server.kinds r.gvk = some kind) →
      (∀ r ∈ objects, ∀ kind, KindInfo.find memo.server.kinds r.gvk = some kind →
        Snapshot.Readable ((r.placedIn (targetScope defaultScope kind r)).marked options.gcTag)) →
      (objects.Pairwise fun a b => ¬Resource.SharesTarget memo.server.kinds defaultScope a b) →
      options.dryRun = false →
      (update defaultScope options table objects).outcome session memo = (.ok report, memo') →
      ((diff defaultScope .lastApplied objects).run session memo').result.isOk = true := by
  intro hclaim
  let input : Resource :=
    ⟨[("apiVersion", .string "v1"), ("kind", .string "ConfigMap"),
      ("metadata", .object [("name", .string "a")])], by decide, by decide, by decide⟩
  let memo : Memo MemoryCluster :=
    { server := MemoryCluster.empty MemoryCluster.standardKinds ⟨1, 28⟩ }
  let options : UpdateOptions := ⟨true, none, false, .clusterScope, none, false, false⟩
  have hserved : KindInfo.find memo.server.kinds input.gvk =
      some ⟨⟨"", "v1", "ConfigMap"⟩, "configmaps", .namespaced, KindInfo.everyVerb⟩ := by decide
  have hclean : ∀ r ∈ [input], r.Clean := by
    intro r hr
    obtain rfl := List.mem_singleton.mp hr
    exact ⟨⟨by decide, by decide, by decide, by decide⟩, by decide⟩
  have hknown : ∀ r ∈ [input], ∃ kind, KindInfo.find memo.server.kinds r.gvk = some kind := by
    intro r hr
    obtain rfl := List.mem_singleton.mp hr
    exact ⟨_, hserved⟩
  have hreadable : ∀ r ∈ [input], ∀ kind, KindInfo.find memo.server.kinds r.gvk = some kind →
      Snapshot.Readable ((r.placedIn (targetScope "" kind r)).marked options.gcTag) := by
    intro r hr kind hkind
    obtain rfl := List.mem_singleton.mp hr
    obtain rfl := Option.some.inj (hserved.symm.trans hkind)
    exact Snapshot.readable_of_lossless Gzip.lossless (by decide) (by decide)
  have hfirst : ((update "" options .standard [input]).outcome session memo).1.isOk = true := by
    decide +kernel
  have hsecond : ((diff "" .lastApplied [input]).run session
      ((update "" options .standard [input]).outcome session memo).2).result.isOk = false := by
    decide +kernel
  rcases hrun : (update "" options .standard [input]).outcome session memo with ⟨f | report, memo'⟩
  · rw [hrun] at hfirst
    exact Bool.noConfusion hfirst
  · have hagain := hclaim memo memo' "" options .standard [input] report
      (MemoryCluster.sound_empty (by decide) _) (.inl rfl) hclean hknown hreadable (by simp) rfl hrun
    rw [hrun, hagain] at hsecond
    exact Bool.noConfusion hsecond

end Program

end Reconcile
