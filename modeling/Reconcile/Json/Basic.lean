import Reconcile.Number.Basic

/-!
# JSON values

A JSON value as it is read, compared and written. The members of an object are a list of pairs in
strictly rising order of their keys (by code point); `Json.WellFormed` says so at every depth, and
`Fields.insert` and `Fields.erase` keep it. The laws of looking up, inserting and erasing hold for
any list of members.
-/

namespace Reconcile

/-- A JSON value. -/
inductive Json where
  | null
  | bool (b : Bool)
  | number (n : Number)
  | string (s : String)
  | array (items : List Json)
  | object (members : List (String × Json))
deriving Inhabited

/-- The members of an object, in rising order of their keys. -/
abbrev Fields := List (String × Json)

/-- The six shapes of a JSON value. -/
inductive Json.Shape where
  | null | bool | number | string | array | object
deriving DecidableEq

/-- The name of a shape in messages. -/
def Json.Shape.name : Json.Shape → String
  | .null => "null"
  | .bool => "bool"
  | .number => "number"
  | .string => "string"
  | .array => "array"
  | .object => "object"

namespace Fields

/-- The value under a key. -/
def get? (key : String) : Fields → Option Json
  | [] => none
  | (k, v) :: rest => if k = key then some v else get? key rest

/-- Whether a key has a value. -/
def has (key : String) (fields : Fields) : Bool := (fields.get? key).isSome

/-- Puts a value under a key, replacing what was there. -/
def insert (key : String) (value : Json) : Fields → Fields
  | [] => [(key, value)]
  | (k, v) :: rest =>
    if k = key then (key, value) :: rest
    else if key < k then (key, value) :: (k, v) :: rest
    else (k, v) :: insert key value rest

/-- Takes a key away. -/
def erase (key : String) : Fields → Fields
  | [] => []
  | (k, v) :: rest => if k = key then erase key rest else (k, v) :: erase key rest

/-- The members in any order, of two with one key the later. -/
def ofList (members : List (String × Json)) : Fields :=
  members.foldl (fun fields member => insert member.1 member.2 fields) []

/-- The keys in order. -/
def keys (fields : Fields) : List String := fields.map (·.1)

/-- The text under a key, if the value there is a string. -/
def string? (key : String) (fields : Fields) : Option String :=
  match fields.get? key with
  | some (.string s) => some s
  | _ => none

/-- The members of the object under a key, if the value there is an object. -/
def object? (key : String) (fields : Fields) : Option Fields :=
  match fields.get? key with
  | some (.object members) => some members
  | _ => none

/-- The items of the array under a key, if the value there is an array. -/
def array? (key : String) (fields : Fields) : Option (List Json) :=
  match fields.get? key with
  | some (.array items) => some items
  | _ => none

/-- The truth value under a key, if the value there is one. -/
def bool? (key : String) (fields : Fields) : Option Bool :=
  match fields.get? key with
  | some (.bool b) => some b
  | _ => none

/-- Nothing is under a key where there are no members. -/
@[simp] theorem get?_nil (key : String) : Fields.get? key [] = none := rfl

/-- Members are looked through from the front. -/
theorem get?_cons (key k : String) (v : Json) (rest : Fields) :
    Fields.get? key ((k, v) :: rest) = if k = key then some v else Fields.get? key rest := rfl

/-- What was put under a key is found there, and nothing else changes. -/
theorem get?_insert (key k : String) (value : Json) (fields : Fields) :
    (fields.insert k value).get? key = if k = key then some value else fields.get? key := by
  induction fields with
  | nil => rfl
  | cons member rest ih =>
    obtain ⟨k', v'⟩ := member
    unfold insert
    split
    next h => subst h; simp only [get?_cons]; split <;> rfl
    next h =>
      split
      next => simp only [get?_cons]
      next => simp only [get?_cons, ih]; grind

/-- What was taken away is not found, and nothing else changes. -/
theorem get?_erase (key k : String) (fields : Fields) :
    (fields.erase k).get? key = if k = key then none else fields.get? key := by
  induction fields with
  | nil => simp [erase]
  | cons member rest ih =>
    obtain ⟨k', v'⟩ := member
    unfold erase
    split
    next h => subst h; rw [ih]; simp only [get?_cons]; split <;> rfl
    next h => simp only [get?_cons, ih]; grind

end Fields

namespace Json

/-- A text as a value. -/
instance : Coe String Json := ⟨.string⟩

/-- The shape of a value. -/
def shape : Json → Shape
  | .null => .null
  | .bool _ => .bool
  | .number _ => .number
  | .string _ => .string
  | .array _ => .array
  | .object _ => .object

/-- The value under a key, when this is an object that has one. -/
def get? (key : String) : Json → Option Json
  | .object members => Fields.get? key members
  | _ => none

/-- The text of a string value. -/
def string? : Json → Option String
  | .string s => some s
  | _ => none

/-- The members of an object value. -/
def object? : Json → Option Fields
  | .object members => some members
  | _ => none

/-- The items of an array value. -/
def array? : Json → Option (List Json)
  | .array items => some items
  | _ => none

/-- The truth value of a boolean. -/
def bool? : Json → Option Bool
  | .bool b => some b
  | _ => none

/-- Whether this is null. -/
def isNull : Json → Bool
  | .null => true
  | _ => false

/-- Whether this is an object. -/
def isObject : Json → Bool
  | .object _ => true
  | _ => false

/-- Whether this is an array. -/
def isArray : Json → Bool
  | .array _ => true
  | _ => false

/-- The object with these members, of two with one key the later. -/
def ofMembers (members : List (String × Json)) : Json := .object (Fields.ofList members)

mutual

/-- How deep arrays and objects are nested. -/
def depth : Json → Nat
  | .array items => itemsDepth items + 1
  | .object members => fieldsDepth members + 1
  | _ => 0

/-- The greatest depth of a list of values. -/
def itemsDepth : List Json → Nat
  | [] => 0
  | v :: rest => max v.depth (itemsDepth rest)

/-- The greatest depth of the values of a list of members. -/
def fieldsDepth : List (String × Json) → Nat
  | [] => 0
  | (_, v) :: rest => max v.depth (fieldsDepth rest)

end

mutual

/-- Equality of values, numbers by representation. -/
def beq : Json → Json → Bool
  | .null, .null => true
  | .bool a, .bool b => a == b
  | .number a, .number b => a == b
  | .string a, .string b => a == b
  | .array a, .array b => itemsBeq a b
  | .object a, .object b => fieldsBeq a b
  | _, _ => false

/-- Equality of lists of values. -/
def itemsBeq : List Json → List Json → Bool
  | [], [] => true
  | a :: as, b :: bs => beq a b && itemsBeq as bs
  | _, _ => false

/-- Equality of lists of members. -/
def fieldsBeq : List (String × Json) → List (String × Json) → Bool
  | [], [] => true
  | (k, a) :: as, (l, b) :: bs => k == l && beq a b && fieldsBeq as bs
  | _, _ => false

end

mutual

/-- The comparison of values decides whether they are the same. -/
theorem beq_iff : (a b : Json) → (beq a b = true ↔ a = b)
  | .null, b => by cases b <;> simp [beq]
  | .bool a, b => by cases b <;> simp [beq]
  | .number a, b => by cases b <;> simp [beq]
  | .string a, b => by cases b <;> simp [beq]
  | .array a, b => by
    cases b with
    | array b => simp [beq, itemsBeq_iff a b]
    | _ => simp [beq]
  | .object a, b => by
    cases b with
    | object b => simp [beq, fieldsBeq_iff a b]
    | _ => simp [beq]

/-- So it does for lists. -/
theorem itemsBeq_iff : (a b : List Json) → (itemsBeq a b = true ↔ a = b)
  | [], b => by cases b <;> simp [itemsBeq]
  | a :: as, b => by
    cases b with
    | nil => simp [itemsBeq]
    | cons b bs => simp [itemsBeq, beq_iff a b, itemsBeq_iff as bs]

/-- So it does for members. -/
theorem fieldsBeq_iff : (a b : List (String × Json)) → (fieldsBeq a b = true ↔ a = b)
  | [], b => by cases b <;> simp [fieldsBeq]
  | (k, a) :: as, b => by
    cases b with
    | nil => simp [fieldsBeq]
    | cons member bs =>
      obtain ⟨l, b⟩ := member
      simp [fieldsBeq, beq_iff a b, fieldsBeq_iff as bs]

end

/-- Values can be compared. -/
instance : DecidableEq Json := fun a b => decidable_of_iff _ (beq_iff a b)

/-- The keys of every object, at every depth, rise strictly. -/
inductive WellFormed : Json → Prop
  | null : WellFormed .null
  | bool (b : Bool) : WellFormed (.bool b)
  | number (n : Number) : WellFormed (.number n)
  | string (s : String) : WellFormed (.string s)
  | array (items : List Json) (each : ∀ v ∈ items, WellFormed v) : WellFormed (.array items)
  | object (members : List (String × Json)) (rising : members.Pairwise fun a b => a.1 < b.1)
      (each : ∀ m ∈ members, WellFormed m.2) : WellFormed (.object members)

end Json

end Reconcile
