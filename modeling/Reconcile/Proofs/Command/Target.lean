import Reconcile.Cluster.Memory
import Reconcile.Command.Update
import Reconcile.Proofs.Resource.Metadata

/-!
# The server objects that inputs stand for

An input stands for one object of the server: that of its kind, in the namespace where it is put,
with its name. Which namespace that is depends on the scope of the kind and on the default
namespace, whereas the check for duplicates compares the inputs as they are written.
`Resource.sharesTarget_iff_ambiguous` says exactly what the check leaves open.
-/

namespace Reconcile

/-- The server object that an identity names: an empty namespace counts as none. -/
def Identity.normal (id : Identity) : Identity := { id with scope := id.scope.filter (· ≠ "") }

/-- What is found for a kind is of that kind. -/
theorem KindInfo.gvk_of_find {kinds : List KindInfo} {gvk : Gvk} {kind : KindInfo}
    (h : KindInfo.find kinds gvk = some kind) : kind.gvk = gvk := by
  simpa using List.find?_some h

section Duplicates

/-- No duplicate is found exactly when all identities are distinct, and new. -/
theorem firstDuplicate_eq_none_iff (seen : List Identity) (objects : List Resource) :
    firstDuplicate seen objects = none ↔
      (objects.map Resource.identity).Nodup ∧ ∀ r ∈ objects, r.identity ∉ seen := by
  induction objects generalizing seen with
  | nil => simp [firstDuplicate]
  | cons r rest ih =>
    rw [firstDuplicate]
    by_cases hseen : r.identity ∈ seen
    · simp [hseen]
    · rw [if_neg hseen, ih, List.map_cons, List.nodup_cons]
      constructor
      · rintro ⟨hdistinct, hnew⟩
        refine ⟨⟨?_, hdistinct⟩, ?_⟩
        · intro hmem
          obtain ⟨other, hother, hsame⟩ := List.mem_map.mp hmem
          exact hnew other hother (hsame ▸ List.mem_cons_self)
        · intro other hother
          rcases List.mem_cons.mp hother with rfl | hother
          · exact hseen
          · exact fun h => hnew other hother (List.mem_cons_of_mem _ h)
      · rintro ⟨⟨hfirst, hdistinct⟩, hnew⟩
        refine ⟨hdistinct, fun other hother h => ?_⟩
        rcases List.mem_cons.mp h with hsame | h
        · exact hfirst (hsame ▸ List.mem_map_of_mem hother)
        · exact hnew other (List.mem_cons_of_mem _ hother) h

/-- The check accepts exactly the lists of objects with distinct identities. -/
theorem checkDuplicates_iff (objects : List Resource) :
    checkDuplicates objects = .ok () ↔ (objects.map Resource.identity).Nodup := by
  have hnone := firstDuplicate_eq_none_iff [] objects
  rw [checkDuplicates]
  split
  next id hsome => simpa [hsome] using hnone
  next h => simpa [h] using hnone

/-- Whatever is accepted for an update is accepted without regard to its tag. -/
theorem checkDuplicates_of_checkUpdate {objects : List Resource} {tag : Option String}
    (h : Program.checkUpdate objects tag = .ok ()) : checkDuplicates objects = .ok () := by
  cases hcheck : checkDuplicates objects with
  | ok _ => rfl
  | error e =>
    simp only [Program.checkUpdate, hcheck] at h
    contradiction

end Duplicates

namespace Resource

/-- The server object for which an input stands, if its kind is served. -/
def target? (kinds : List KindInfo) (defaultScope : String) (r : Resource) : Option Identity :=
  (KindInfo.find kinds r.gvk).map fun kind => ⟨kind.gvk, targetScope defaultScope kind r, r.name⟩

/-- Two inputs stand for one object of the server. -/
def SharesTarget (kinds : List KindInfo) (defaultScope : String) (a b : Resource) : Prop :=
  ∃ id, a.target? kinds defaultScope = some id ∧ b.target? kinds defaultScope = some id

/-- Two inputs of one kind and name whose namespaces are written differently and mean the same:
the kind has none, or one input leaves out the default namespace that the other states. -/
def Ambiguous (kinds : List KindInfo) (defaultScope : String) (a b : Resource) : Prop :=
  a.gvk = b.gvk ∧ a.name = b.name ∧ ∃ kind, KindInfo.find kinds a.gvk = some kind ∧
    (kind.scope = .cluster ∨ (a.scope? = none ∧ b.scope? = some defaultScope) ∨
      (a.scope? = some defaultScope ∧ b.scope? = none))

/-- Whether two inputs are ambiguous can be decided. -/
instance (kinds : List KindInfo) (defaultScope : String) (a b : Resource) :
    Decidable (Ambiguous kinds defaultScope a b) :=
  decidable_of_iff
    (a.gvk = b.gvk ∧ a.name = b.name ∧ (KindInfo.find kinds a.gvk).any (fun kind =>
      kind.scope = .cluster ∨ (a.scope? = none ∧ b.scope? = some defaultScope) ∨
        (a.scope? = some defaultScope ∧ b.scope? = none)) = true)
    (by simp [Ambiguous, Option.any_eq_true])

variable {kinds : List KindInfo} {defaultScope : String} {a b r : Resource} {kind : KindInfo}

/-- An input of a served kind is looked for in its namespace under its name. -/
theorem target?_of_find (h : KindInfo.find kinds r.gvk = some kind) :
    r.target? kinds defaultScope = some ⟨r.gvk, targetScope defaultScope kind r, r.name⟩ := by
  rw [target?, h, Option.map_some, KindInfo.gvk_of_find h]

/-- Where a kind has no namespaces none is looked into. -/
theorem targetScope_cluster (h : kind.scope = .cluster) : targetScope defaultScope kind r = none := by
  rw [targetScope, h]

/-- Elsewhere it is the namespace of the input or the default one. -/
theorem targetScope_namespaced (h : kind.scope = .namespaced) :
    targetScope defaultScope kind r = some (r.scope?.getD defaultScope) := by
  rw [targetScope, h]

/-- The cluster knows the object for which an input stands by its target. -/
theorem target?_eq_key (h : KindInfo.find kinds r.gvk = some kind) (defaultScope : String) :
    r.target? kinds defaultScope =
      some (MemoryCluster.key kind (targetScope defaultScope kind r) r.name) := by
  have hscope : (if kind.isNamespaced then targetScope defaultScope kind r else none) =
      targetScope defaultScope kind r := by
    rw [KindInfo.isNamespaced]
    cases hlives : kind.scope with
    | cluster => rw [targetScope_cluster hlives]; rfl
    | namespaced => rfl
  rw [target?, h, Option.map_some, MemoryCluster.key, hscope]

/-- Inputs share their target when kind, target namespace and name are the same. -/
theorem sharesTarget_iff : SharesTarget kinds defaultScope a b ↔
    a.gvk = b.gvk ∧ a.name = b.name ∧ ∃ kind, KindInfo.find kinds a.gvk = some kind ∧
      targetScope defaultScope kind a = targetScope defaultScope kind b := by
  constructor
  · rintro ⟨id, ha, hb⟩
    obtain ⟨kind, hkind, -⟩ := Option.map_eq_some_iff.mp ha
    obtain ⟨other, hother, -⟩ := Option.map_eq_some_iff.mp hb
    rw [target?_of_find hkind, Option.some.injEq] at ha
    rw [target?_of_find hother, Option.some.injEq, ← ha, Identity.mk.injEq] at hb
    obtain ⟨hgvk, hscope, hname⟩ := hb
    obtain rfl : other = kind := by
      rw [hgvk, hkind] at hother
      exact (Option.some.inj hother).symm
    exact ⟨hgvk.symm, hname.symm, other, hkind, hscope.symm⟩
  · rintro ⟨hgvk, hname, kind, hkind, hscope⟩
    refine ⟨_, target?_of_find hkind, ?_⟩
    rw [target?_of_find (hgvk ▸ hkind), hscope, hgvk, hname]

/-- Standing for one object goes both ways. -/
theorem SharesTarget.symm (h : SharesTarget kinds defaultScope a b) :
    SharesTarget kinds defaultScope b a := by
  obtain ⟨id, ha, hb⟩ := h
  exact ⟨id, hb, ha⟩

/-- Of two inputs that are written differently, the target is the same exactly when they are
ambiguous. -/
theorem sharesTarget_iff_ambiguous (h : a.identity ≠ b.identity) :
    SharesTarget kinds defaultScope a b ↔ Ambiguous kinds defaultScope a b := by
  rw [sharesTarget_iff, Ambiguous]
  refine and_congr_right fun hgvk => and_congr_right fun hname => exists_congr fun kind =>
    and_congr_right fun hkind => ?_
  have hscope : a.scope? ≠ b.scope? := fun hscope => h (by rw [identity, identity, hgvk, hscope, hname])
  cases hlives : kind.scope with
  | cluster => simp [targetScope_cluster hlives]
  | namespaced =>
    rw [targetScope_namespaced hlives, targetScope_namespaced hlives]
    simp only [reduceCtorEq, false_or]
    generalize a.scope? = own at hscope ⊢
    generalize b.scope? = other at hscope ⊢
    cases own <;> cases other <;> simp_all [eq_comm]

/-- The check accepts two inputs for one object of the server when one leaves out the default
namespace that the other states. -/
theorem checkDuplicates_misses_shared_target :
    ¬∀ (kinds : List KindInfo) (defaultScope : String) (objects : List Resource),
      checkDuplicates objects = .ok () →
        objects.Pairwise fun a b => ¬SharesTarget kinds defaultScope a b := by
  intro hclaim
  let plain : Resource :=
    ⟨[("apiVersion", .string "v1"), ("kind", .string "ConfigMap"),
      ("metadata", .object [("name", .string "a")])], by decide, by decide, by decide⟩
  let placed : Resource :=
    ⟨[("apiVersion", .string "v1"), ("kind", .string "ConfigMap"),
      ("metadata", .object [("name", .string "a"), ("namespace", .string "default")])],
      by decide, by decide, by decide⟩
  have haccepted : checkDuplicates [plain, placed] = .ok () :=
    (checkDuplicates_iff _).mpr (by decide)
  have hdistinct := hclaim MemoryCluster.standardKinds "default" [plain, placed] haccepted
  rw [List.pairwise_cons] at hdistinct
  exact hdistinct.1 placed (by simp) ⟨⟨⟨"", "v1", "ConfigMap"⟩, some "default", "a"⟩, by decide, by decide⟩

/-- Namespaces that agree when an empty one counts as none are the same. -/
theorem eq_of_filter_eq {ns ms : String}
    (h : (some ns).filter (· ≠ "") = (some ms).filter (· ≠ "")) : ns = ms := by
  by_cases hns : ns = "" <;> by_cases hms : ms = "" <;> simp_all [Option.filter]

/-- Where no target is shared, targets differ also when an empty namespace counts as none. -/
theorem normal_target?_ne {x y : Identity} (h : ¬SharesTarget kinds defaultScope a b)
    (ha : a.target? kinds defaultScope = some x) (hb : b.target? kinds defaultScope = some y) :
    x.normal ≠ y.normal := by
  intro hnormal
  obtain ⟨kind, hkind, -⟩ := Option.map_eq_some_iff.mp ha
  obtain ⟨other, hother, -⟩ := Option.map_eq_some_iff.mp hb
  rw [target?_of_find hkind, Option.some.injEq] at ha
  rw [target?_of_find hother, Option.some.injEq] at hb
  subst ha hb
  simp only [Identity.normal, Identity.mk.injEq] at hnormal
  obtain ⟨hgvk, hscope, hname⟩ := hnormal
  obtain rfl : other = kind := by
    rw [← hgvk, hkind] at hother
    exact (Option.some.inj hother).symm
  refine h (sharesTarget_iff.mpr ⟨hgvk, hname, other, hkind, ?_⟩)
  cases hlives : other.scope with
  | cluster => rw [targetScope_cluster hlives, targetScope_cluster hlives]
  | namespaced =>
    rw [targetScope_namespaced hlives, targetScope_namespaced hlives] at hscope ⊢
    exact congrArg some (eq_of_filter_eq hscope)

section Submitted

/-- The object marked with a tag, if there is one. -/
def marked (tag : Option String) (placed : Resource) : Resource :=
  match tag with
  | some tag => (placed.setAnnotation AnnotationKey.gcTag tag).setLabel Label.gcTag tag
  | none => placed

variable (target tag : Option String) (r : Resource)

/-- An input with a mark stays of its kind. -/
@[simp] theorem gvk_marked : (r.marked tag).gvk = r.gvk := by cases tag <;> simp [marked]

/-- It keeps its name. -/
@[simp] theorem name_marked : (r.marked tag).name = r.name := by cases tag <;> simp [marked]

/-- It keeps its namespace. -/
@[simp] theorem scope?_marked : (r.marked tag).scope? = r.scope? := by cases tag <;> simp [marked]

/-- It keeps its uid. -/
@[simp] theorem uid?_marked : (r.marked tag).uid? = r.uid? := by cases tag <;> simp [marked]

section Keeps

variable {target tag r} {P : Resource → Prop}

/-- What stays true whatever namespace is put in stays true of an input that is placed. -/
theorem placedIn_keeps (hscope : ∀ r ns, P r → P (r.setScope ns)) (h : P r) : P (r.placedIn target) := by
  obtain ⟨ns, -, -, hplaced⟩ | ⟨hplaced, -⟩ := placedIn_cases r target
  · exact hplaced ▸ hscope r ns h
  · exact hplaced.symm ▸ h

/-- What stays true whatever entry is put in stays true of an input that is marked. -/
theorem marked_keeps (hentry : ∀ r map key value h, P r → P (r.setEntry map key value h)) (h : P r) :
    P (r.marked tag) := by
  cases tag with
  | none => exact h
  | some tag => exact hentry _ "labels" _ _ (by decide) (hentry _ "annotations" _ _ (by decide) h)

end Keeps

/-- An input stays well formed when it is placed. -/
theorem wellFormed_placedIn {r : Resource} (h : r.toJson.WellFormed) :
    (r.placedIn target).toJson.WellFormed :=
  placedIn_keeps (P := fun r => r.toJson.WellFormed) (fun _ ns h => wellFormed_setScope h ns) h

/-- It stays well formed when it is marked. -/
theorem wellFormed_marked {r : Resource} (h : r.toJson.WellFormed) :
    (r.marked tag).toJson.WellFormed :=
  marked_keeps (P := fun r => r.toJson.WellFormed) (fun _ _ _ _ hmap h => wellFormed_setEntry h hmap) h

variable [Compression]

/-- What is submitted is the placed and marked object with a snapshot of itself. -/
theorem submitted_eq : r.submitted target tag = Snapshot.stamp ((r.placedIn target).marked tag) := rfl

/-- What is submitted is of the kind of the input. -/
@[simp] theorem gvk_submitted : (r.submitted target tag).gvk = r.gvk := by
  simp [submitted_eq, Snapshot.stamp]

/-- It has the name of the input. -/
@[simp] theorem name_submitted : (r.submitted target tag).name = r.name := by
  simp [submitted_eq, Snapshot.stamp]

/-- It has the uid of the input. -/
@[simp] theorem uid?_submitted : (r.submitted target tag).uid? = r.uid? := by
  simp [submitted_eq, Snapshot.stamp]

/-- It is in the namespace of the input, or else in the target unless that is empty. -/
theorem scope?_submitted :
    (r.submitted target tag).scope? = r.scope?.or (target.filter (· ≠ "")) := by
  simp [submitted_eq, Snapshot.stamp, scope?_placedIn]

/-- Submitting an object touches the namespace, the annotations and the labels alone. -/
theorem get?_metadata_submitted {key : String} (hscope : key ≠ "namespace")
    (hannotations : key ≠ "annotations") (hlabels : key ≠ "labels") :
    (r.submitted target tag).metadata.get? key = r.metadata.get? key := by
  rw [submitted_eq, Snapshot.stamp, setAnnotation, setEntry,
    get?_metadata_setMeta_of_ne _ _ _ _ hannotations, ← get?_metadata_placedIn r target hscope]
  cases tag with
  | none => rfl
  | some tag =>
    rw [marked, setLabel, setEntry, get?_metadata_setMeta_of_ne _ _ _ _ hlabels, setAnnotation,
      setEntry, get?_metadata_setMeta_of_ne _ _ _ _ hannotations]

/-- Submitting an object states no uid. -/
theorem string?_uid_submitted :
    (r.submitted target tag).metadata.string? "uid" = r.metadata.string? "uid" := by
  rw [Fields.string?_eq, get?_metadata_submitted _ _ _ (by decide) (by decide) (by decide), ← Fields.string?_eq]

/-- What every edit of a namespace, an annotation or a label keeps is kept when an object is
submitted. -/
theorem submitted_keeps {target tag : Option String} {r : Resource} {P : Resource → Prop}
    (hscope : ∀ r ns, P r → P (r.setScope ns))
    (hentry : ∀ r map key value h, P r → P (r.setEntry map key value h)) (h : P r) :
    P (r.submitted target tag) :=
  hentry _ "annotations" _ _ (by decide) (marked_keeps hentry (placedIn_keeps hscope h))

/-- What is submitted is well formed whenever the input is. -/
theorem wellFormed_submitted {r : Resource} (h : r.toJson.WellFormed) :
    (r.submitted target tag).toJson.WellFormed :=
  wellFormed_setEntry (wellFormed_marked tag (wellFormed_placedIn target h)) (by decide)

end Submitted

end Resource

end Reconcile
