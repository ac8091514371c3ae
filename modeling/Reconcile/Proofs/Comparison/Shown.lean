import Reconcile.Gzip.Member
import Reconcile.Proofs.Comparison.Stripped
import Reconcile.Proofs.Comparison.Summary
import Reconcile.Proofs.Comparison.Trim
import Reconcile.Proofs.Json.Parser

/-!
# What a comparison shows

The three views of a live object are well formed whenever the object is: what the config mentions of it,
the object without what the server keeps, and the snapshot, which has been read from text. So the summary
of a comparison agrees with its verdict, whatever is compared and in whichever view.
-/

namespace Reconcile

open Json (WellFormed)

namespace Json

/-- Without what the server keeps a value stays well formed. -/
theorem wellFormed_stripServerFields {v : Json} (h : v.WellFormed) : v.stripServerFields.WellFormed := by
  cases v with
  | object members =>
    exact (Fields.wellFormed_modifyObject h "metadata" fun metadata hmetadata =>
      Fields.wellFormed_eraseWithin (Fields.wellFormed_eraseAll hmetadata _) _ _).erase "status"
  | _ => exact h

end Json

section Compressed

variable [Compression]

/-- Whatever a snapshot is read from, it is JSON text in the end. -/
theorem Snapshot.exists_parse?_of_decode {text : String} {v : Json} (h : decode text = .ok v) :
    ∃ read, Json.parse? read = some v := by
  unfold decode at h
  dsimp only at h
  split at h
  next =>
    split at h
    next w hw => exact ⟨_, Except.ok.inj h ▸ hw⟩
    next => cases h
  next =>
    split at h
    next => cases h
    next =>
      split at h
      next => cases h
      next =>
        split at h
        next w hw =>
          obtain ⟨read, -, hread⟩ := Option.bind_eq_some_iff.mp hw
          exact ⟨read, Except.ok.inj h ▸ hread⟩
        next => cases h

/-- What was applied last is a snapshot, or an empty object in its place. -/
theorem wellFormed_lastAppliedOf (live : Resource) : (lastAppliedOf live).1.WellFormed := by
  rw [lastAppliedOf, Snapshot.lastApplied]
  cases Snapshot.text? live with
  | none => exact .nil
  | some text =>
    dsimp only
    cases hdecode : Snapshot.decode text with
    | error f => exact .nil
    | ok v =>
      obtain ⟨read, hparse⟩ := Snapshot.exists_parse?_of_decode hdecode
      exact Json.wellFormed_of_parse? hparse

namespace Comparison

/-- The summary of a comparison is that of its two sides. -/
theorem summary_between (config live : Resource) (strategy : DiffStrategy) :
    (between config live strategy).1.summary =
      (between config live strategy).1.config.summary (between config live strategy).1.live := rfl

section Sides

variable {config live : Resource} (hc : config.toJson.WellFormed) (hl : live.toJson.WellFormed)
  (strategy : DiffStrategy)

include hc

/-- The side of the config is well formed. -/
theorem wellFormed_config : (between config live strategy).1.config.WellFormed := by
  cases strategy with
  | all => exact hc
  | subset => exact hc
  | lastApplied => exact Json.wellFormed_stripGcTag hc

include hl

/-- So is the side of the live object, in every view. -/
theorem wellFormed_live : (between config live strategy).1.live.WellFormed := by
  cases strategy with
  | all => exact Json.wellFormed_stripServerFields hl
  | subset => exact Json.wellFormed_trim hc hl
  | lastApplied => exact Json.wellFormed_stripGcTag (wellFormed_lastAppliedOf live)

end Sides

end Comparison

end Compressed

namespace Comparison

/-- The summary of a comparison counts something exactly when the two sides differ, and a summary from the
other side exchanges additions and removals. -/
theorem summary_agrees [Compression] :
    (∀ a b : Json, a.WellFormed → b.WellFormed →
      (a.summary b = .zero ↔ a.sameValue b = true) ∧
        b.summary a = ⟨(a.summary b).removes, (a.summary b).updates, (a.summary b).adds⟩) ∧
    ∀ (config live : Resource) (strategy : DiffStrategy),
      config.toJson.WellFormed → live.toJson.WellFormed →
        let c := (between config live strategy).1
        c.hasDifferences = true ↔ 0 < c.summary.adds ∨ 0 < c.summary.updates ∨ 0 < c.summary.removes := by
  refine ⟨fun a b ha hb => ⟨?_, Json.summary_comm ha hb⟩, fun config live strategy hc hl => ?_⟩
  · exact Summary.total_eq_zero_iff.symm.trans (Json.total_summary_eq_zero_iff ha hb)
  · intro c
    have hzero : Summary.total c.summary = 0 ↔ c.config.sameValue c.live = true := by
      rw [summary_between]
      exact Json.total_summary_eq_zero_iff (wellFormed_config hc strategy) (wellFormed_live hc hl strategy)
    have hdiffers : c.hasDifferences = true ↔ ¬c.config.sameValue c.live = true := by
      rw [hasDifferences, Bool.not_eq_true', Bool.not_eq_true]
    have htotal : Summary.total c.summary = c.summary.adds + c.summary.updates + c.summary.removes := rfl
    rw [hdiffers, ← hzero, htotal]
    omega

/-- A config that states an annotation, a pause and one replica more, beside a live object with a label. -/
theorem summary_agrees_of_scaled :
    let one : WideInt := ⟨1, by decide⟩
    let two : WideInt := ⟨2, by decide⟩
    let deployment (map entry : String) (spec : Fields) : Fields :=
      [("apiVersion", .string "apps/v1"), ("kind", .string "Deployment"),
        ("metadata", .object [(map, .object [(entry, .string "x")]), ("name", .string "app")]),
        ("spec", .object spec)]
    let config : Resource :=
      ⟨deployment "annotations" "note" [("paused", .bool true), ("replicas", .number (.integer two))],
        by decide, by decide, by decide⟩
    let live : Resource :=
      ⟨deployment "labels" "team" [("replicas", .number (.integer one))], by decide, by decide, by decide⟩
    config.toJson.summary live.toJson = ⟨2, 1, 1⟩ ∧
      live.toJson.summary config.toJson = ⟨1, 1, 2⟩ ∧
      config.toJson.sameValue live.toJson = false ∧
      (between config live .subset).1.summary = ⟨2, 1, 0⟩ ∧
      (between config live .subset).1.hasDifferences = true := by
  intro one two deployment config live
  have hc : config.toJson.WellFormed := by decide
  have hl : live.toJson.WellFormed := by decide
  have hcounts : config.toJson.summary live.toJson = ⟨2, 1, 1⟩ := by decide
  have hshown : (between config live .subset).1.summary = ⟨2, 1, 0⟩ := by decide
  obtain ⟨hsame, hswap⟩ := summary_agrees.1 config.toJson live.toJson hc hl
  rw [hcounts] at hsame hswap
  refine ⟨hcounts, hswap, ?_, hshown, ?_⟩
  · rw [← Bool.not_eq_true, ← hsame]
    decide
  · refine (summary_agrees.2 config live .subset hc hl).mpr (.inl ?_)
    rw [hshown]
    decide

end Comparison

end Reconcile
