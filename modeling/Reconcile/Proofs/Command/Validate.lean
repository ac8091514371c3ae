import Reconcile.Command.Validate
import Reconcile.Pattern.Language
import Reconcile.Proofs.Cluster.Told
import Reconcile.Proofs.Program.Events
import Reconcile.Proofs.Schema.Validator
import Reconcile.Schema.Checker

/-!
# What a validation comes to

A validation looks at every object, whatever it found before, and what it finds in an object is what a
fresh validator finds in it: `Program.run_validate` is its run as a whole, put together from what is
found in each object alone. So neither the verdict nor the report depends on the order of the objects. All
this holds whatever library compiles the schemas and checks the objects.
-/

namespace Reconcile

section Library

variable [SchemaLibrary]

/-- What a validation finds in an object when it looks at nothing else; nothing when it skips the object. -/
def SchemaSource.verdict (source : SchemaSource) (kinds : List KindInfo) (r : Resource) :
    Option (List String) :=
  Program.verdict (KindInfo.find kinds r.gvk).isSome r.gvk (Validator.alone source r)

/-- An object fits the schema of its kind, or its kind is served and has no schema. -/
def SchemaSource.Accepts (source : SchemaSource) (kinds : List KindInfo) (r : Resource) : Prop :=
  Validator.alone source r = .ok (some []) ∨
    (Validator.alone source r = .ok none ∧ (KindInfo.find kinds r.gvk).isSome = true)

end Library

/-- What a validation reports of an object in which this was found. -/
def Notice.ofVerdict (r : Resource) (description : String) : Option (List String) → List Notice
  | none => [.noSchema r.apiVersion description]
  | some problems => problems.map (.problem description)

namespace ValidationReport

/-- A report with one more object, in which this was found. -/
def add (r : Resource) (found : Option (List String)) (report : ValidationReport) : ValidationReport :=
  match found with
  | none => { report with skipped := report.skipped ++ [r.identity] }
  | some _ => { report with checked := report.checked + 1 }

/-- A report that goes on as another one. -/
def append (report more : ValidationReport) : ValidationReport :=
  ⟨report.checked + more.checked, report.skipped ++ more.skipped⟩

/-- The report on objects in each of which this was found. -/
def of (found : Resource → Option (List String)) (objects : List Resource) : ValidationReport where
  checked := objects.countP fun r => (found r).isSome
  skipped := (objects.filter fun r => (found r).isNone).map Resource.identity

variable {found : Resource → Option (List String)} {objects other : List Resource}

/-- What is found in objects is added to a report one object after the other. -/
theorem append_of_cons (report : ValidationReport) (r : Resource) (rest : List Resource) :
    report.append (of found (r :: rest)) = (report.add r (found r)).append (of found rest) := by
  cases h : found r with
  | none => simp [append, add, of, h]
  | some problems => simp [append, add, of, h, Nat.add_assoc, Nat.add_comm]

/-- Nothing is changed by a report of nothing. -/
theorem empty_append (report : ValidationReport) : append ⟨0, []⟩ report = report := by
  rw [append, Nat.zero_add, List.nil_append]

/-- Every object is either checked or skipped. -/
theorem checked_add_skipped (found : Resource → Option (List String)) (objects : List Resource) :
    (of found objects).checked + (of found objects).skipped.length = objects.length := by
  rw [of, List.length_map, ← List.countP_eq_length_filter, List.length_eq_countP_add_countP fun r =>
    (found r).isSome]
  congr 2
  funext r
  cases found r <;> simp

/-- The report on the same objects in another order. -/
theorem of_perm (h : other.Perm objects) :
    (of found other).checked = (of found objects).checked ∧
      (of found other).skipped.Perm (of found objects).skipped :=
  ⟨h.countP_eq _, (h.filter _).map _⟩

end ValidationReport

namespace SchemaSource

variable [SchemaLibrary] {source : SchemaSource} {kinds : List KindInfo} {r : Resource}

/-- An object is accepted when nothing was found in it. -/
theorem accepts_iff : source.Accepts kinds r ↔ (source.verdict kinds r).all List.isEmpty = true := by
  rw [Accepts, verdict]
  rcases Validator.alone source r with f | _ | problems
  · simp [Program.verdict]
  · cases (KindInfo.find kinds r.gvk).isSome <;> simp [Program.verdict]
  · simp [Program.verdict, List.isEmpty_iff]

end SchemaSource

namespace Program

section Library

variable [SchemaLibrary] {σ : Type} {server : Server σ} {source : SchemaSource} {kinds : List KindInfo}
  {memo : Memo σ} {validator : Validator} {objects : List Resource}

/-- What a validation of objects gives out. -/
def validationEvents (source : SchemaSource) (kinds : List KindInfo) (objects : List Resource) : List Event :=
  objects.flatMap fun r =>
    let description := r.description (KindInfo.find kinds r.gvk)
    (.validating description :: Notice.ofVerdict r description (source.verdict kinds r)).map .notice

/-- The first object is the first to be described, checked and reported on. -/
theorem validateAll_cons (source : SchemaSource) (r : Resource) (rest : List Resource)
    (validator : Validator) (report : ValidationReport) (failed : Bool) :
    validateAll source (r :: rest) validator report failed = (do
      let description ← describe r
      tell (.validating description)
      let known ← kindInfo r.gvk
      let found := verdict known.isSome r.gvk (validator.problems source r).1
      tellAll (Notice.ofVerdict r description found)
      validateAll source rest (validator.problems source r).2 (report.add r found)
        (failed || !found.all List.isEmpty)) := by
  rw [validateAll]
  congr 1
  funext description
  congr 1
  funext _
  congr 1
  funext known
  dsimp only
  cases verdict known.isSome r.gvk (validator.problems source r).1 with
  | none =>
    rw [Option.all_none, Bool.not_true, Bool.or_false]
    rfl
  | some problems => rfl

/-- The loop over the objects, from any validator that remembers only what the source publishes. -/
theorem run_validateAll (hkinds : (server.remembering.answer .kinds memo).1 = .ok kinds)
    (hfaithful : validator.Faithful source) (report : ValidationReport) (failed : Bool) :
    ∃ final, (validateAll source objects validator report failed).run server.remembering memo =
      ⟨.ok (report.append (.of (source.verdict kinds) objects),
          failed || objects.any fun r => !(source.verdict kinds r).all List.isEmpty),
        validationEvents source kinds objects, final⟩ := by
  induction objects generalizing memo validator report failed with
  | nil =>
    refine ⟨memo, ?_⟩
    simp [validateAll, ValidationReport.of, ValidationReport.append, validationEvents]
    rfl
  | cons r rest ih =>
    let told := (server.remembering.answer .kinds memo).2
    let description := r.description (KindInfo.find kinds r.gvk)
    let found := source.verdict kinds r
    have htold : told.kinds = some kinds := server.remembering_learns_kinds hkinds
    have hdescribe : (describe r).run server.remembering memo =
        ⟨.ok description, [], told⟩ := by
      refine (silent_describe r).run_of_outcome ?_
      rw [describe, outcome_bind, outcome_request, hkinds]
      rfl
    have hkind : (kindInfo r.gvk).run server.remembering told =
        ⟨.ok (KindInfo.find kinds r.gvk), [], told⟩ :=
      (silent_kindInfo r.gvk).run_of_outcome (outcome_kindInfo server htold r.gvk)
    have hfound : verdict (KindInfo.find kinds r.gvk).isSome r.gvk (validator.problems source r).1 =
        found := by
      rw [hfaithful.alone r]
      rfl
    obtain ⟨final, hrest⟩ := ih (congrArg Prod.fst (server.remembering_kinds htold))
      (hfaithful.problems r).2 (report.add r found) (failed || !found.all List.isEmpty)
    refine ⟨final, ?_⟩
    rw [validateAll_cons, ValidationReport.append_of_cons, List.any_cons, ← Bool.or_assoc]
    rw [show validationEvents source kinds (r :: rest) = [] ++ ([.notice (.validating description)] ++
      ([] ++ ((Notice.ofVerdict r description found).map .notice ++ validationEvents source kinds rest)))
      from rfl]
    refine run_bind_of_ok _ hdescribe (run_bind_of_ok _ rfl (run_bind_of_ok _ hkind ?_))
    dsimp only
    rw [hfound]
    exact run_bind_of_ok _ (run_tellAll _ _ told) hrest

/-- What a validation comes to: it looks at every object, and fails in the end when it does not accept
each of them. -/
theorem run_validate (hkinds : (server.remembering.answer .kinds memo).1 = .ok kinds) :
    ∃ final, (validate source objects).run server.remembering memo =
      ⟨if objects.all fun r => (source.verdict kinds r).all List.isEmpty then
          .ok (.of (source.verdict kinds) objects)
        else .error Cause.invalidObjects,
        validationEvents source kinds objects, final⟩ := by
  obtain ⟨final, hall⟩ := @run_validateAll _ _ server source kinds memo _ objects hkinds
    Validator.faithful_empty ⟨0, []⟩ false
  refine ⟨final, ?_⟩
  rw [validate, ← List.append_nil (validationEvents _ _ _)]
  refine run_bind_of_ok _ hall ?_
  rw [ValidationReport.empty_append, Bool.false_or, ← List.not_all_eq_any_not]
  cases objects.all fun r => (source.verdict kinds r).all List.isEmpty <;> rfl

/-- A validation succeeds exactly when it accepts every object. -/
theorem validate_eq_ok_iff (hkinds : (server.remembering.answer .kinds memo).1 = .ok kinds) :
    (∃ report, ((validate source objects).run server.remembering memo).result = .ok report) ↔
      ∀ r ∈ objects, source.Accepts kinds r := by
  obtain ⟨final, hrun⟩ := @run_validate _ _ server source kinds memo objects hkinds
  have hall : (objects.all fun r => (source.verdict kinds r).all List.isEmpty) = true ↔
      ∀ r ∈ objects, source.Accepts kinds r := by
    rw [List.all_eq_true]
    exact forall₂_congr fun r _ => SchemaSource.accepts_iff.symm
  rw [hrun, ← hall]
  dsimp only
  split <;> simp_all

/-- A validation does not show what its validator remembers. Whatever objects came before and whatever
failed then, it finds in an object what a fresh validator finds in the object alone, and reports that.
It succeeds exactly when each object fits its schema, or is of a kind that is served and has no schema;
a report counts every object once. The verdict is the same in whatever order the objects are given. -/
theorem validate_verdict_per_object (source : SchemaSource)
    (hkinds : (server.remembering.answer .kinds memo).1 = .ok kinds) (objects : List Resource) :
    let run := (validate source objects).run server.remembering memo
    (∀ before r, ((Validator.after source before).problems source r).1 = Validator.alone source r) ∧
      run.events = validationEvents source kinds objects ∧
      ((∃ report, run.result = .ok report) ↔ ∀ r ∈ objects, source.Accepts kinds r) ∧
      ((¬∃ report, run.result = .ok report) → run.result = .error Cause.invalidObjects) ∧
      (∀ report, run.result = .ok report →
        report.checked + report.skipped.length = objects.length) ∧
      ∀ other : List Resource, other.Perm objects →
        let again := ((validate source other).run server.remembering memo).result
        (∀ f, again = .error f ↔ run.result = .error f) ∧
          ∀ report, run.result = .ok report → ∃ report', again = .ok report' ∧
            report'.checked = report.checked ∧ report'.skipped.Perm report.skipped := by
  intro run
  obtain ⟨final, hrun⟩ := @run_validate _ _ server source kinds memo objects hkinds
  have hresult : run.result = _ := congrArg Run.result hrun
  refine ⟨fun before r => (Validator.faithful_after before).alone r, congrArg Run.events hrun,
    validate_eq_ok_iff hkinds, fun hfails => ?_, fun report hok => ?_, fun other hperm => ?_⟩
  · rw [hresult] at hfails ⊢
    split at hfails
    · exact absurd ⟨_, rfl⟩ hfails
    · exact if_neg ‹_›
  · rw [hresult] at hok
    split at hok
    · obtain rfl := Except.ok.inj hok
      exact ValidationReport.checked_add_skipped _ objects
    · cases hok
  · obtain ⟨final', hagain⟩ := @run_validate _ _ server source kinds memo other hkinds
    intro again
    have hagain : again = _ := congrArg Run.result hagain
    have hall : (other.all fun r => (source.verdict kinds r).all List.isEmpty) =
        objects.all fun r => (source.verdict kinds r).all List.isEmpty := hperm.all_eq
    rw [hall] at hagain
    rw [hresult, hagain]
    cases objects.all fun r => (source.verdict kinds r).all List.isEmpty with
    | false => exact ⟨fun f => Iff.rfl, fun report h => nomatch h⟩
    | true =>
      refine ⟨fun f => iff_of_false nofun nofun, fun report h => ?_⟩
      obtain rfl := Except.ok.inj h
      exact ⟨_, rfl, ValidationReport.of_perm hperm⟩

end Library

/-- Two objects of one kind, for which the schema is compiled once: the first fits, the second has a member
that the schema does not list. A kind without a schema is skipped, and one whose schema cannot be fetched is
refused. -/
theorem validate_verdict_per_object_of_published_schema :
    let schema : Fields :=
      [("properties", .object [("apiVersion", .object []), ("data", .object [("type", .string "object")]),
          ("kind", .object []), ("metadata", .object [])]),
        ("type", .string "object"),
        ("x-kubernetes-group-version-kind", .array [.object [("group", .string ""),
          ("kind", .string "ConfigMap"), ("version", .string "v1")]])]
    let document : Json :=
      .object [("components", .object [("schemas", .object [("io.k8s.ConfigMap", .object schema)])])]
    let source : SchemaSource := fun apiVersion =>
      if apiVersion = "v1" then .ok (some document) else .error Cause.badAddress
    let object (apiVersion kind : String) (more : Fields) : Fields :=
      [("apiVersion", .string apiVersion)] ++ more ++ [("kind", .string kind),
        ("metadata", .object [("name", .string "a")])]
    let fitting : Resource := ⟨object "v1" "ConfigMap" [("data", .object [])], by decide, by decide, by decide⟩
    let mistyped : Resource :=
      ⟨object "v1" "ConfigMap" [("dta", .object [])], by decide, by decide, by decide⟩
    let secret : Resource := ⟨object "v1" "Secret" [], by decide, by decide, by decide⟩
    let deployment : Resource := ⟨object "apps/v1" "Deployment" [], by decide, by decide, by decide⟩
    let cluster := MemoryCluster.empty MemoryCluster.standardKinds ⟨1, 28⟩
    let result (objects : List Resource) :=
      ((validate source objects).run MemoryCluster.session { server := cluster }).result
    ((Validator.after source [fitting]).schemas.lookup mistyped.gvk).isSome = true ∧
      ((Validator.after source [fitting]).problems source mistyped).1 =
        .ok (some ["unknown field \"dta\" at /"]) ∧
      result [fitting, mistyped] = .error Cause.invalidObjects ∧
      result [mistyped, fitting] = .error Cause.invalidObjects ∧
      result [fitting, deployment] = .error Cause.invalidObjects ∧
      ∃ report, result [fitting, secret, fitting] = .ok report ∧
        report.checked + report.skipped.length = 3 := by
  intro schema document source object fitting mistyped secret deployment cluster result
  have hkinds : (MemoryCluster.server.remembering.answer .kinds { server := cluster }).1 =
      .ok MemoryCluster.standardKinds := rfl
  have hmistyped : ¬source.Accepts MemoryCluster.standardKinds mistyped := by
    rw [SchemaSource.accepts_iff]
    decide +kernel
  have hdeployment : ¬source.Accepts MemoryCluster.standardKinds deployment := by
    rw [SchemaSource.accepts_iff]
    decide +kernel
  have haccepted : ∀ r ∈ [fitting, secret, fitting], source.Accepts MemoryCluster.standardKinds r := by
    simp only [SchemaSource.accepts_iff]
    decide +kernel
  obtain ⟨hremembers, -, hok, hfails, -, hperm⟩ :=
    validate_verdict_per_object source hkinds [fitting, mistyped]
  have hfirst : result [fitting, mistyped] = .error Cause.invalidObjects :=
    hfails fun h => hmistyped (hok.mp h mistyped (by simp))
  have halone : Validator.alone source mistyped = .ok (some ["unknown field \"dta\" at /"]) := by
    have hproblems : (Validator.alone source mistyped).toOption =
        some (some ["unknown field \"dta\" at /"]) := by decide +kernel
    rcases hfound : Validator.alone source mistyped with f | problems <;> rw [hfound] at hproblems
    · cases hproblems
    · exact congrArg Except.ok (Option.some.inj hproblems)
  obtain ⟨-, -, hok', hfails', -, -⟩ := validate_verdict_per_object source hkinds [fitting, deployment]
  obtain ⟨-, -, hok'', -, hcount, -⟩ := validate_verdict_per_object source hkinds [fitting, secret, fitting]
  obtain ⟨report, hreport⟩ := hok''.mpr haccepted
  exact ⟨by decide +kernel, (hremembers [fitting] mistyped).trans halone, hfirst,
    ((hperm _ (List.Perm.swap fitting mistyped [])).1 _).mpr hfirst,
    hfails' fun h => hdeployment (hok'.mp h deployment (by simp)), report, hreport, hcount report hreport⟩

end Program

end Reconcile
