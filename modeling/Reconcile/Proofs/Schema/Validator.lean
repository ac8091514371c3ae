import Reconcile.Schema.Validator

/-!
# What a validator remembers

A validator remembers documents by their API version and schemas by their kind. Whatever it was asked
before and whatever failed then, an entry is what the source gives for it: so the memory cannot be told
from outside, and a validator finds in an object what a fresh one finds.
-/

namespace Reconcile

variable [SchemaLibrary] {source : SchemaSource}

/-- The schema of a kind by what a source publishes. -/
def SchemaSource.schema (source : SchemaSource) (gvk : Gvk) :
    Except Failure (Option SchemaLibrary.Compiled) := do
  Validator.schemaIn ((← source gvk.apiVersion).map tightenDocument) gvk

namespace Validator

/-- What a fresh validator finds in an object. -/
def alone (source : SchemaSource) (r : Resource) : Except Failure (Option (List String)) :=
  (empty.problems source r).1

/-- The validator that was asked about objects, one after the other. -/
def after (source : SchemaSource) (objects : List Resource) : Validator :=
  objects.foldl (fun v r => (v.problems source r).2) empty

/-- What a validator remembers is what the source publishes. -/
structure Faithful (source : SchemaSource) (v : Validator) : Prop where
  documents : ∀ apiVersion doc, v.documents.lookup apiVersion = some doc →
    (source apiVersion).map (·.map tightenDocument) = .ok doc
  schemas : ∀ gvk s, v.schemas.lookup gvk = some s → source.schema gvk = .ok s

variable {v : Validator}

/-- A validator that has seen nothing remembers nothing wrong. -/
theorem faithful_empty : Faithful source empty where
  documents := by simp [empty]
  schemas := by simp [empty]

/-- A document that is remembered after it was asked for. -/
theorem Faithful.document (hv : v.Faithful source) (apiVersion : String) :
    (v.document source apiVersion).1 = (source apiVersion).map (·.map tightenDocument) ∧
      (v.document source apiVersion).2.Faithful source := by
  rw [Validator.document]
  cases hknown : v.documents.lookup apiVersion with
  | some doc => exact ⟨(hv.documents apiVersion doc hknown).symm, hv⟩
  | none =>
    cases hsource : source apiVersion with
    | error f => exact ⟨rfl, hv⟩
    | ok doc =>
      refine ⟨rfl, ⟨fun other doc' h => ?_, hv.schemas⟩⟩
      rw [List.lookup_cons] at h
      cases hother : other == apiVersion with
      | false => exact hv.documents other doc' (by simpa [hother] using h)
      | true =>
        obtain rfl := eq_of_beq hother
        obtain rfl : doc.map tightenDocument = doc' := by simpa using h
        rw [hsource]
        rfl

/-- A schema that is remembered after it was asked for; a failure leaves none behind. -/
theorem Faithful.schema (hv : v.Faithful source) (gvk : Gvk) :
    (v.schema source gvk).1 = source.schema gvk ∧ (v.schema source gvk).2.Faithful source := by
  rw [Validator.schema]
  cases hknown : v.schemas.lookup gvk with
  | some s => exact ⟨(hv.schemas gvk s hknown).symm, hv⟩
  | none =>
    obtain ⟨hdoc, hnext⟩ := hv.document gvk.apiVersion
    rcases hpair : v.document source gvk.apiVersion with ⟨answer, next⟩
    rw [hpair] at hdoc hnext
    dsimp only at hdoc hnext ⊢
    cases hsource : source gvk.apiVersion with
    | error f =>
      obtain rfl : answer = .error f := by rw [hdoc, hsource]; rfl
      exact ⟨by rw [SchemaSource.schema, hsource]; rfl, hnext⟩
    | ok doc =>
      obtain rfl : answer = .ok (doc.map tightenDocument) := by rw [hdoc, hsource]; rfl
      have hschema : source.schema gvk = schemaIn (doc.map tightenDocument) gvk := by
        rw [SchemaSource.schema, hsource]
        rfl
      dsimp only
      cases hin : schemaIn (doc.map tightenDocument) gvk with
      | error f => exact ⟨hschema.trans hin |>.symm, hnext⟩
      | ok s =>
        refine ⟨hschema.trans hin |>.symm, ⟨hnext.documents, fun other s' h => ?_⟩⟩
        -- only a schema that was found is remembered, under its own kind
        rw [List.lookup_cons] at h
        cases hother : other == gvk with
        | false => exact hnext.schemas other s' (by simpa [hother] using h)
        | true =>
          obtain rfl := eq_of_beq hother
          obtain rfl : s = s' := by simpa using h
          exact hschema.trans hin

/-- What a faithful validator finds in an object depends on the source alone. -/
theorem Faithful.problems (hv : v.Faithful source) (r : Resource) :
    (v.problems source r).1 =
        (source.schema r.gvk).map
          (·.map fun s => (SchemaLibrary.violations s r.toJson.pruneNulls).flatMap Violation.texts) ∧
      (v.problems source r).2.Faithful source := by
  obtain ⟨hschema, hnext⟩ := hv.schema r.gvk
  rw [Validator.problems]
  rcases hpair : v.schema source r.gvk with ⟨answer, next⟩
  rw [hpair] at hschema hnext
  rw [← show answer = source.schema r.gvk from hschema]
  cases answer <;> exact ⟨rfl, hnext⟩

/-- A faithful validator finds in an object what a fresh one does. -/
theorem Faithful.alone (hv : v.Faithful source) (r : Resource) :
    (v.problems source r).1 = Validator.alone source r :=
  (hv.problems r).1.trans (faithful_empty.problems r).1.symm

/-- A validator stays faithful, whatever it is asked about. -/
theorem Faithful.foldl (hv : v.Faithful source) (objects : List Resource) :
    (objects.foldl (fun v r => (v.problems source r).2) v).Faithful source := by
  induction objects generalizing v with
  | nil => exact hv
  | cons r rest ih => exact ih (hv.problems r).2

/-- Whatever it has looked at, it remembers what the source says. -/
theorem faithful_after (objects : List Resource) : (after source objects).Faithful source :=
  faithful_empty.foldl objects

end Validator

end Reconcile
