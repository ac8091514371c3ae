import Reconcile.Failure

/-!
# Resources

A resource is a JSON object with a non-empty `apiVersion`, a non-empty `kind` and a non-empty
`metadata.name`. `Resource.ofJson` accepts exactly these. The editing operations work inside
`metadata` only and keep the three, so a resource stays one after any of them.
-/

namespace Reconcile

/-- Whether there is a non-empty text under a key. -/
def Fields.hasText (key : String) (fields : Fields) : Bool :=
  match fields.string? key with
  | some s => s != ""
  | none => false

/-- The members under a key, which are none when there is no object. -/
def Fields.slot (key : String) (fields : Fields) : Fields := (fields.object? key).getD []

/-- Whether there is text under a key is not changed by putting something under another one. -/
theorem Fields.hasText_insert {key k : String} (h : k ≠ key) (v : Json) (fields : Fields) :
    (fields.insert k v).hasText key = fields.hasText key := by
  simp [hasText, string?, get?_insert, h]

/-- Nor is it by taking something from under another one. -/
theorem Fields.hasText_erase {key k : String} (h : k ≠ key) (fields : Fields) :
    (fields.erase k).hasText key = fields.hasText key := by
  simp [hasText, string?, get?_erase, h]

/-- An object that was put under a key is read as the members under it. -/
theorem Fields.slot_insert_self (key : String) (members fields : Fields) :
    (fields.insert key (.object members)).slot key = members := by
  simp [slot, object?, get?_insert]

/-- The members that every resource has. -/
structure Resource.Complete (fields : Fields) : Prop where
  apiVersion : fields.hasText "apiVersion" = true
  kind : fields.hasText "kind" = true
  name : (fields.slot "metadata").hasText "name" = true

/-- An object with an API version, a kind and a name. -/
structure Resource where
  fields : Fields
  complete : Resource.Complete fields

/-- A reference to an owner of an object. -/
structure OwnerRef where
  apiVersion : String
  kind : String
  name : String
  uid : String
  controller : Bool

/-- Reads a reference; missing texts are empty. -/
def OwnerRef.ofJson? : Json → Option OwnerRef
  | .object members =>
    let text (key : String) : String := (Fields.string? key members).getD ""
    some {
      apiVersion := text "apiVersion", kind := text "kind", name := text "name", uid := text "uid",
      controller := (Fields.bool? "controller" members).getD false }
  | _ => none

namespace Resource

/-- Objects are the same when their fields are. -/
instance : DecidableEq Resource := fun a b =>
  decidable_of_iff (a.fields = b.fields) ⟨fun h => by cases a; cases b; cases h; rfl, fun h => h ▸ rfl⟩

/-- Accepts an object that has everything a resource needs; else says what it lacks first. -/
def ofFields (fields : Fields) : Except ModelError Resource :=
  if hv : fields.hasText "apiVersion" = true then
    if hk : fields.hasText "kind" = true then
      if hn : (fields.slot "metadata").hasText "name" = true then .ok ⟨fields, hv, hk, hn⟩
      else .error (.missingName ((fields.string? "kind").getD ""))
    else .error .missingKind
  else .error .missingApiVersion

/-- Accepts a value that is a complete object. -/
def ofJson : Json → Except ModelError Resource
  | .object members => ofFields members
  | other => .error (.notAnObject other.shape)

/-- The object. -/
def toJson (r : Resource) : Json := .object r.fields

/-- The members of `metadata`. -/
def metadata (r : Resource) : Fields := r.fields.slot "metadata"

/-- A non-empty text in `metadata`. -/
def metaText? (key : String) (r : Resource) : Option String :=
  (r.metadata.string? key).filter (· ≠ "")

/-- The version of the interface that an object is written for, with its group. -/
def apiVersion (r : Resource) : String := (r.fields.string? "apiVersion").getD ""

/-- The kind that an object says it is of. -/
def kind (r : Resource) : String := (r.fields.string? "kind").getD ""

/-- The group, version and kind of an object. -/
def gvk (r : Resource) : Gvk := Gvk.ofApiVersion r.apiVersion r.kind

/-- The name of an object. -/
def name (r : Resource) : String := (r.metaText? "name").getD ""

/-- The namespace that the object names; an empty one counts as none. -/
def scope? (r : Resource) : Option String := r.metaText? "namespace"

/-- The uid that a server has given an object. -/
def uid? (r : Resource) : Option String := r.metaText? "uid"

/-- The version of an object that a server has kept. -/
def resourceVersion? (r : Resource) : Option String := r.metaText? "resourceVersion"

/-- The text of an annotation. -/
def annotation? (key : String) (r : Resource) : Option String :=
  (r.metadata.slot "annotations").string? key

/-- The text of a label. -/
def label? (key : String) (r : Resource) : Option String := (r.metadata.slot "labels").string? key

/-- The owners; entries that are no objects do not count. -/
def owners (r : Resource) : List OwnerRef :=
  ((r.metadata.array? "ownerReferences").getD []).filterMap OwnerRef.ofJson?

/-- Whether one of the owners controls the object. -/
def hasController (r : Resource) : Bool := r.owners.any (·.controller)

/-- The namespace and the name, joined by a point. -/
def qualifiedName (r : Resource) : String := Reconcile.qualifiedName r.scope? r.name

/-- Kind, namespace and name as the object states them. -/
def identity (r : Resource) : Identity := ⟨r.gvk, r.scope?, r.name⟩

/-- Replaces `metadata`, where the name stays. -/
def withMetadata (r : Resource) (members : Fields)
    (h : members.hasText "name" = r.metadata.hasText "name") : Resource where
  fields := r.fields.insert "metadata" (.object members)
  complete :=
    { apiVersion := by rw [Fields.hasText_insert (by decide)]; exact r.complete.apiVersion
      kind := by rw [Fields.hasText_insert (by decide)]; exact r.complete.kind
      name := by rw [Fields.slot_insert_self, h]; exact r.complete.name }

/-- Puts a value other than the name into `metadata`. -/
def setMeta (key : String) (value : Json) (r : Resource) (h : key ≠ "name" := by decide) : Resource :=
  r.withMetadata (r.metadata.insert key value) (Fields.hasText_insert h _ _)

/-- Puts a uid into `metadata`, or null for none. -/
def setUid (uid : Json) (r : Resource) : Resource := r.setMeta "uid" uid

/-- Puts the object into a namespace. -/
def setScope (ns : String) (r : Resource) : Resource := r.setMeta "namespace" (.string ns)

/-- Puts a text into a map of `metadata`; what was there and is no map is replaced. -/
def setEntry (map key value : String) (r : Resource) (h : map ≠ "name" := by decide) : Resource :=
  r.setMeta map (.object ((r.metadata.slot map).insert key (.string value))) h

/-- The object with an annotation put on it. -/
def setAnnotation (key value : String) (r : Resource) : Resource := r.setEntry "annotations" key value

/-- The object with a label put on it. -/
def setLabel (key value : String) (r : Resource) : Resource := r.setEntry "labels" key value

/-- Takes an annotation away, and the map of annotations once it is empty. -/
def removeAnnotation (key : String) (r : Resource) : Resource :=
  match r.metadata.object? "annotations" with
  | none => r
  | some annotations =>
    match annotations.erase key with
    | [] => r.withMetadata (r.metadata.erase "annotations") (Fields.hasText_erase (by decide) _)
    | rest => r.setMeta "annotations" (.object rest)

end Resource

/-- The first object whose identity an earlier one has. -/
def firstDuplicate (seen : List Identity) : List Resource → Option Identity
  | [] => none
  | r :: rest => if r.identity ∈ seen then some r.identity else firstDuplicate (r.identity :: seen) rest

/-- Accepts a list of objects with distinct identities. -/
def checkDuplicates (objects : List Resource) : Except ModelError Unit :=
  match firstDuplicate [] objects with
  | some id => .error (.duplicate id)
  | none => .ok ()

end Reconcile
