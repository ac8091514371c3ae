import Reconcile.Schema.Basic

/-!
# Reading of schemas

From a JSON value to the schema it states, in the meaning of draft 7: a reference hides everything
beside it, unknown keywords ask for nothing, and a keyword whose value makes no sense makes the
whole schema unusable. The problem tells where in the schema that is, so far as it is known.
-/

namespace Reconcile.Schema

variable [PatternLanguage]

/-- Where a keyword holds schemas, and of what form its value is. -/
inductive Reading where
  | schema
  | list
  | map
  | schemaOrList
  | dependencies
  | plain

/-- What a keyword's value is read as. -/
def reading (keyword : String) : Reading :=
  if keyword ∈ ["additionalItems", "additionalProperties", "contains", "else", "if", "not",
      "propertyNames", "then"] then .schema
  else if keyword ∈ ["allOf", "anyOf", "oneOf"] then .list
  else if keyword ∈ ["patternProperties", "properties"] then .map
  else if keyword = "items" then .schemaOrList
  else if keyword = "dependencies" then .dependencies
  else .plain

/-- The schemas under a keyword, or why they cannot be used. -/
inductive Part where
  | single (s : Except Problem Schema)
  | listed (l : Except Problem (List Schema))
  | mapped (m : Except Problem (List (String × Schema)))
  | plain

/-- A value of a wrong type. -/
def wrongType (place : Path) (v : Json) (wanted : TypeName) : Problem := ⟨place, v, .type wanted⟩

/-- A keyword that cannot be used, for a reason that is not told. -/
def unusable : Problem := ⟨[], .null, .unusable⟩

/-- A text that is to be a pattern. -/
def readPattern (use : PatternUse) (place : Path) (text : String) (v : Json) :
    Except Problem Matcher :=
  match PatternLanguage.parse? use text with
  | some p => .ok p
  | none => .error ⟨place, v, .notInFormat "regex"⟩

/-- The names of properties that have to be there. -/
def readRequired (place : Path) (v : Json) : Except Problem Schema :=
  match v with
  | .array items => do
    let keys ← items.mapM fun item =>
      match item with
      | .string key => .ok key
      | other => .error (wrongType place other .string)
    return .required keys
  | other => .error (wrongType place other .array)

/-- The type or types asked for. -/
def readTypes (place : Path) (v : Json) : Except Problem Schema :=
  let one (item : Json) : Except Problem TypeName :=
    match item with
    | .string name =>
      match TypeName.parse? name with
      | some t => .ok t
      | none => .error ⟨place, item, .notOneOf (TypeName.all.map fun t => .string t.text)⟩
    | other => .error (wrongType place other .string)
  match v with
  | .string name =>
    match TypeName.parse? name with
    | some t => .ok (.type t)
    | none => .error unusable
  | .array [.string name] =>
    match TypeName.parse? name with
    | some t => .ok (.type t)
    | none => .error unusable
  | .array [other] => .error (wrongType place other .string)
  | .array items => do
    let wanted ← items.mapM one
    return .types (TypeName.all.filter wanted.contains)
  | other => .error ⟨place, other, .types [.array, .string]⟩

/-- A count that is not negative, in either representation of a whole number. -/
def readCount (place : Path) (v : Json) : Except Problem Nat :=
  match v with
  | .number (.integer z) =>
    if 0 ≤ z.val then .ok z.val.toNat
    else .error ⟨place, v, .outOfBounds ⟨false, false, .integer .zero⟩⟩
  | .number (.float x) =>
    if x.toRat.isInt then .ok x.toRat.num.toNat else .error (wrongType place v .integer)
  | other => .error (wrongType place other .integer)

/-- The number under a keyword. -/
def readNumber (place : Path) (v : Json) : Except Problem Number :=
  match v with
  | .number n => .ok n
  | other => .error (wrongType place other .number)

/-- What a keyword asks for that holds no schemas. -/
def readPlain (place : Path) (keyword : String) (v : Json) : Except Problem (List Schema) := do
  let inner := place.under keyword
  let limit (upper strict : Bool) : Except Problem (List Schema) := do
    return [.bound ⟨upper, strict, ← readNumber place v⟩]
  match keyword with
  | "type" => return [← readTypes inner v]
  | "required" => return [← readRequired inner v]
  | "enum" =>
    match v with
    | .array options => return [.oneOf options]
    | other => .error (wrongType place other .array)
  | "const" => return [.constant v]
  | "minimum" => limit false false
  | "maximum" => limit true false
  | "exclusiveMinimum" => limit false true
  | "exclusiveMaximum" => limit true true
  | "minLength" => return [.atLeast .characters (← readCount inner v)]
  | "maxLength" => return [.atMost .characters (← readCount inner v)]
  | "minItems" => return [.atLeast .items (← readCount inner v)]
  | "maxItems" => return [.atMost .items (← readCount inner v)]
  | "minProperties" => return [.atLeast .properties (← readCount inner v)]
  | "maxProperties" => return [.atMost .properties (← readCount inner v)]
  | "multipleOf" => return [.multipleOf (← readNumber place v).toBinary64]
  | "pattern" =>
    match v with
    | .string text => return [.pattern text (← readPattern .texts place text v)]
    | other => .error (wrongType place other .string)
  | "uniqueItems" =>
    match v with
    | .bool wanted => return if wanted then [.unique] else []
    | other => .error (wrongType place other .boolean)
  | _ => return []

/-- The schemas by name under a keyword, none if it is not there. -/
def mapUnder (keyword : String) (parts : List (String × Json × Part)) :
    Except Problem (List (String × Schema)) :=
  match parts.find? (·.1 == keyword) with
  | some (_, _, .mapped m) => m
  | some _ => .error unusable
  | none => .ok []

/-- The schemas by pattern. -/
def patternsUnder (place : Path) (parts : List (String × Json × Part)) :
    Except Problem (List (Matcher × Schema)) := do
  (← mapUnder "patternProperties" parts).mapM fun (text, s) => do
    return (← readPattern .memberNames (place.under "patternProperties") text (.string text), s)

/-- Whether the members that are not listed are spoken of, so that the listed ones are read
together with them. -/
def closesMembers (parts : List (String × Json × Part)) : Bool :=
  match parts.find? (·.1 == "additionalProperties") with
  | some (_, v, _) => v == .bool false || v.isObject
  | none => false

/-- What is asked of the members that are not listed. -/
def readOthers (place : Path) (parts : List (String × Json × Part)) (v : Json)
    (s : Except Problem Schema) : Except Problem (List Schema) := do
  let listed := parts.any fun part => part.1 == "properties" || part.1 == "patternProperties"
  match v with
  | .bool true => return []
  | .bool false =>
    if listed then
      let patterns ← patternsUnder place parts
      return [.closedObject (← mapUnder "properties" parts) patterns]
    else return [.noMembers]
  | _ =>
    let patterns ← patternsUnder place parts
    let named ← mapUnder "properties" parts
    return [.object named patterns (← s)]

/-- What is asked of the items behind those that have schemas of their own. -/
def readItemsAfter (place : Path) (parts : List (String × Json × Part)) (v : Json)
    (s : Except Problem Schema) : Except Problem (List Schema) := do
  match parts.find? (·.1 == "items") with
  | some (_, .array items, _) =>
    match v with
    | .object _ => return [.itemsAfter items.length (← s)]
    | .bool false => return [.noItemsAfter items.length]
    | _ => return []
  | some (_, .object _, _) | some (_, .bool _, _) | none => return []
  | some _ => .error ⟨place, v, .types [.array, .boolean, .object]⟩

/-- What a condition asks for, once there is something to ask in either case. -/
def readCondition (parts : List (String × Json × Part)) (s : Except Problem Schema) :
    Except Problem (List Schema) := do
  let branch (keyword : String) : Option (Except Problem Schema) :=
    match parts.find? (·.1 == keyword) with
    | some (_, _, .single s) => some s
    | _ => none
  match branch "then", branch "else" with
  | none, none => return []
  | yes, no => return [.ifThenElse (← s) (← yes.getD (.ok (.all []))) (← no.getD (.ok (.all [])))]

/-- What one keyword asks for, beside all others. -/
def readKeyword (place : Path) (parts : List (String × Json × Part)) :
    String × Json × Part → Except Problem (List Schema)
  | (keyword, v, .single s) =>
    match keyword with
    | "additionalProperties" => readOthers place parts v s
    | "additionalItems" => readItemsAfter place parts v s
    | "if" => readCondition parts s
    | "then" | "else" => return []
    | "not" => return [.not v (← s)]
    | "contains" => return [.contains (← s)]
    | "propertyNames" =>
      match v with
      | .object _ => return [.memberNames (← s)]
      | .bool false => return [.noMemberNames]
      | _ => return []
    | "items" =>
      match v with
      | .object _ | .bool false => return [.array (← s)]
      | _ => return []
    | _ => return []
  | (keyword, v, .listed l) =>
    match keyword with
    | "allOf" => return [.all (← l)]
    | "anyOf" => return [.anyOf (← l)]
    | "oneOf" => return [.exactlyOne (← l)]
    | "items" => return [.itemsInTurn (← l)]
    | _ => .error (wrongType place v .array)
  | (keyword, _, .mapped m) =>
    match keyword with
    | "properties" =>
      if closesMembers parts then return [] else return [.object (← m) [] (.all [])]
    | "patternProperties" =>
      if closesMembers parts then return []
      else return [.object [] (← patternsUnder place parts) (.all [])]
    | _ => return [.dependencies (← m)]
  | (keyword, v, .plain) =>
    match reading keyword with
    | .plain => readPlain place keyword v
    | .list => .error (wrongType place v .array)
    | .map =>
      if closesMembers parts then return []
      else if keyword = "properties" then .error (wrongType place v .object)
      else .error unusable
    | _ => .error (wrongType place v .object)

mutual

/-- Reads a schema at a place of the schema document. -/
def read (place : Path) : Json → Except Problem Schema
  | .bool true => .ok (.all [])
  | .bool false => .ok .never
  | .object members =>
    match Fields.get? "$ref" members with
    | some (.string target) => .ok (.reference target)
    | some other => .error (wrongType place other .string)
    | none => do
      let parts := readParts place members
      return .all (← parts.mapM (readKeyword place parts)).flatten
  | v => .error ⟨place, v, .types [.boolean, .object]⟩

/-- Reads the schemas under each keyword. -/
def readParts (place : Path) : List (String × Json) → List (String × Json × Part)
  | [] => []
  | (keyword, v) :: rest =>
    let inner := place.under keyword
    let part : Part :=
      match reading keyword with
      | .plain => .plain
      | .schema => .single (read inner v)
      | .schemaOrList =>
        match v with
        | .array items => .listed (readList inner 0 items)
        | v => .single (read inner v)
      | .list =>
        match v with
        | .array items => .listed (readList inner 0 items)
        | _ => .plain
      | .map =>
        match v with
        | .object members => .mapped (readMap inner members)
        | _ => .plain
      | .dependencies =>
        match v with
        | .object members => .mapped (readDependencies inner members)
        | _ => .plain
    (keyword, v, part) :: readParts place rest

/-- Reads the schemas of a list. -/
def readList (place : Path) (i : Nat) : List Json → Except Problem (List Schema)
  | [] => .ok []
  | v :: rest => do
    let s ← read (place.item i) v
    return s :: (← readList place (i + 1) rest)

/-- Reads the schemas of a map. -/
def readMap (place : Path) : List (String × Json) → Except Problem (List (String × Schema))
  | [] => .ok []
  | (name, v) :: rest => do
    let s ← read (place.under name) v
    return (name, s) :: (← readMap place rest)

/-- Reads what members ask for: schemas, or lists of other members. -/
def readDependencies (place : Path) : List (String × Json) → Except Problem (List (String × Schema))
  | [] => .ok []
  | (name, v) :: rest => do
    let s ← match v with
      | .array items => readRequired (place.under name) (.array items)
      | v => read (place.under name) v
    return (name, s) :: (← readDependencies place rest)

end

end Reconcile.Schema
