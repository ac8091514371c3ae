import Reconcile.Schema.PatternLanguage
import Reconcile.Schema.Problem

/-!
# Schemas

A schema as what it asks of an instance. Each keyword is a schema of its own, and an object of
keywords asks for all of them, so that a schema without keywords accepts everything.
`Schema.problems` says what does not fit; what a reference stands for is left to the caller.
-/

namespace Reconcile

/-- A schema. -/
inductive Schema where
  /-- All of these at once; nothing is asked without any. -/
  | all (parts : List Schema)
  | never
  /-- Whatever a reference stands for. -/
  | reference (target : String)
  | type (wanted : TypeName)
  | types (wanted : List TypeName)
  | oneOf (options : List Json)
  | constant (expected : Json)
  | bound (b : Bound)
  | atLeast (measure : Measure) (n : Nat)
  | atMost (measure : Measure) (n : Nat)
  | multipleOf (divisor : Binary64)
  | pattern (text : String) (p : Matcher)
  | unique
  | required (keys : List String)
  /-- The members with these names or of these patterns, and all others. -/
  | object (named : List (String × Schema)) (patterned : List (Matcher × Schema)) (others : Schema)
  /-- The members with these names or of these patterns, and no others. -/
  | closedObject (named : List (String × Schema)) (patterned : List (Matcher × Schema))
  | noMembers
  | memberNames (names : Schema)
  | noMemberNames
  /-- What is asked of the whole object once it has a member. -/
  | dependencies (whole : List (String × Schema))
  | array (each : Schema)
  | itemsInTurn (items : List Schema)
  | itemsAfter (start : Nat) (each : Schema)
  | noItemsAfter (start : Nat)
  | contains (some : Schema)
  | anyOf (choices : List Schema)
  | exactlyOne (choices : List Schema)
  | not (source : Json) (excluded : Schema)
  | ifThenElse (condition yes no : Schema)

namespace Number

/-- Whether a number is a whole one, in either representation. -/
def isWhole : Number → Bool
  | .integer _ => true
  | .float x => x.toRat.isInt

/-- Whether a number keeps a bound, by its exact value. -/
def keeps (b : Bound) (n : Number) : Bool :=
  let x := n.toRat
  let limit := b.limit.toRat
  match b.upper, b.strict with
  | true, false => x ≤ limit
  | true, true => x < limit
  | false, false => limit ≤ x
  | false, true => limit < x

end Number

namespace Binary64

/-- The least binary64 value above one, less one. -/
def epsilon : Rat := mkRat 1 0x10000000000000

/-- What is left of a fraction once it is cut off toward zero. -/
def fractionOf (x : Rat) : Rat := x - (if x < 0 then x.ceil else x.floor)

/-- Whether a value is a multiple of a divisor. A whole divisor is compared exactly. Any other is
compared by the fraction of the rounded quotient, which may be as large as the rounding error, and
the fraction of a negative quotient is always small enough. -/
def isMultipleOf (divisor x : Binary64) : Bool :=
  if divisor.toRat.isInt then !divisor.isZero && (x.toRat / divisor.toRat).isInt && x.toRat.isInt
  else
    match x.div divisor with
    | some q => fractionOf q.toRat < epsilon
    | none => (x.toRat / divisor.toRat).isInt

/-- Whether two values are closer to each other than `epsilon`, by their rounded difference. -/
def isClose (x y : Binary64) : Bool :=
  let d := x.toRat - y.toRat
  match round false d.num.natAbs d.den with
  | some r => r.toRat < epsilon
  | none => false

/-- A value in digits, without an exponent and without a point where none is needed. -/
def plainText (x : Binary64) : String :=
  let d := x.shortest
  let digits := (toString d.coefficient).toList
  let sign := if x.negative then "-" else ""
  if 0 ≤ d.exponent then
    sign ++ String.ofList (digits ++ List.replicate (if x.isZero then 0 else d.exponent.toNat) '0')
  else
    let places := (-d.exponent).toNat
    let padded := List.replicate (places + 1 - digits.length) '0' ++ digits
    sign ++ String.ofList (padded.take (padded.length - places)) ++ "."
      ++ String.ofList (padded.drop (padded.length - places))

end Binary64

namespace Json

mutual

/-- Equality as schemas see it: numbers by the nearest binary64 value. -/
def looseEq : Json → Json → Bool
  | .null, .null => true
  | .bool a, .bool b => a == b
  | .number a, .number b => a.toBinary64.sameValue b.toBinary64
  | .string a, .string b => a == b
  | .array a, .array b => looseItemsEq a b
  | .object a, .object b => looseFieldsEq a b
  | _, _ => false

/-- Equality of lists, item by item. -/
def looseItemsEq : List Json → List Json → Bool
  | [], [] => true
  | a :: as, b :: bs => looseEq a b && looseItemsEq as bs
  | _, _ => false

/-- Equality of members, one by one. -/
def looseFieldsEq : List (String × Json) → List (String × Json) → Bool
  | [], [] => true
  | (k, a) :: as, (l, b) :: bs => k == l && looseEq a b && looseFieldsEq as bs
  | _, _ => false

end

/-- Whether no two items are equal. -/
def allDistinct : List Json → Bool
  | [] => true
  | v :: rest => rest.all (fun w => !v.looseEq w) && allDistinct rest

/-- Whether a value is of a type; a whole number is an integer in either representation. -/
def hasType (v : Json) (t : TypeName) : Bool :=
  match v, t with
  | .array _, .array | .bool _, .boolean | .null, .null | .number _, .number | .object _, .object
  | .string _, .string => true
  | .number n, .integer => n.isWhole
  | _, _ => false

/-- How much there is of a value, when it can be counted so. -/
def measured (v : Json) (m : Measure) : Option Nat :=
  match v, m with
  | .string s, .characters => some s.length
  | .array items, .items => some items.length
  | .object members, .properties => some members.length
  | _, _ => none

end Json

namespace Schema

/-- A constant is met by an equal value; numbers may differ by less than the rounding unit. -/
def meetsConstant (expected v : Json) : Bool :=
  match expected, v with
  | .number a, .number b => a.toBinary64.isClose b.toBinary64
  | _, _ => expected.looseEq v

/-- What a problem makes of a place: the problem, unless what is asked holds. -/
def require (holds : Bool) (place : Path) (v : Json) (m : Mismatch) : List Problem :=
  if holds then [] else [⟨place, v, m⟩]

/-- Whether a member is neither named nor of one of the patterns. -/
def isOther (named : List String) (patterned : List Matcher) (key : String) : Bool :=
  !named.contains key && !patterned.any (· key)

/-- What does not fit when only these names and patterns are allowed. -/
def others (named : List String) (patterned : List Matcher) (members : Fields) (place : Path) :
    List Problem :=
  match members.keys.filter (isOther named patterned) with
  | [] => []
  | unknown => [⟨place, .object members, .unknownFields unknown⟩]

/-- A reader of problems at places: what a schema comes to. -/
abbrev Check := Path → Json → List Problem

/-- Checks every item. -/
def eachItem (check : Check) (place : Path) : Nat → List Json → List Problem
  | _, [] => []
  | i, v :: rest => check (place.item i) v ++ eachItem check place (i + 1) rest

/-- Checks every member whose key is chosen. -/
def eachMember (chosen : String → Bool) (check : Check) (place : Path) (members : Fields) :
    List Problem :=
  members.flatMap fun (key, v) => if chosen key then check (place.under key) v else []

/-- Checks the name of every member. -/
def eachName (check : Check) (place : Path) (members : Fields) : List Problem :=
  members.flatMap fun (key, _) =>
    (check place (.string key)).map fun p => ⟨place, .object members, .memberName key p.mismatch⟩

mutual

/-- What does not fit a schema, at every place below the given one. -/
def problems (follow : String → Check) : Schema → Path → Json → List Problem
  | .all parts, place, v => problemsOfAll follow parts place v
  | .never, place, v => [⟨place, v, .never⟩]
  | .reference target, place, v => follow target place v
  | .type wanted, place, v => require (v.hasType wanted) place v (.type wanted)
  | .types wanted, place, v => require (wanted.any v.hasType) place v (.types wanted)
  | .oneOf options, place, v => require (options.any v.looseEq) place v (.notOneOf options)
  | .constant expected, place, v => require (meetsConstant expected v) place v (.notConstant expected)
  | .bound b, place, v =>
    match v with
    | .number n => require (n.keeps b) place v (.outOfBounds b)
    | _ => []
  | .atLeast measure n, place, v =>
    match v.measured measure with
    | some size => require (n ≤ size) place v (.tooFew measure n)
    | none => []
  | .atMost measure n, place, v =>
    match v.measured measure with
    | some size => require (size ≤ n) place v (.tooMany measure n)
    | none => []
  | .multipleOf divisor, place, v =>
    match v with
    | .number n => require (divisor.isMultipleOf n.toBinary64) place v (.notMultiple divisor.plainText)
    | _ => []
  | .pattern text p, place, v =>
    match v with
    | .string s => require (p s) place v (.noMatch text)
    | _ => []
  | .unique, place, v =>
    match v with
    | .array items => require (Json.allDistinct items) place v .notUnique
    | _ => []
  | .required keys, place, v =>
    match v with
    | .object members => keys.flatMap fun key => require (Fields.has key members) place v (.missing key)
    | _ => []
  | .object named patterned rest, place, v =>
    match v with
    | .object members =>
      problemsOfNamed follow named place members ++ problemsOfPatterned follow patterned place members
        ++ eachMember (isOther (named.map (·.1)) (patterned.map (·.1))) (problems follow rest) place members
    | _ => []
  | .closedObject named patterned, place, v =>
    match v with
    | .object members =>
      problemsOfNamed follow named place members ++ problemsOfPatterned follow patterned place members
        ++ others (named.map (·.1)) (patterned.map (·.1)) members place
    | _ => []
  | .noMembers, place, v =>
    match v with
    | .object ((_, first) :: _) => [⟨place, first, .never⟩]
    | _ => []
  | .memberNames names, place, v =>
    match v with
    | .object members => eachName (problems follow names) place members
    | _ => []
  | .noMemberNames, place, v =>
    match v with
    | .object members => require members.isEmpty place v .never
    | _ => []
  | .dependencies whole, place, v =>
    match v with
    | .object members => problemsOfDependencies follow whole place members
    | _ => []
  | .array each, place, v =>
    match v with
    | .array items => eachItem (problems follow each) place 0 items
    | _ => []
  | .itemsInTurn schemas, place, v =>
    match v with
    | .array items => problemsInTurn follow schemas place 0 items
    | _ => []
  | .itemsAfter start each, place, v =>
    match v with
    | .array items => eachItem (problems follow each) place start (items.drop start)
    | _ => []
  | .noItemsAfter start, place, v =>
    match v with
    | .array items => require (items.length ≤ start) place v (.extraItems (items.drop start))
    | _ => []
  | .contains wanted, place, v =>
    match v with
    | .array items =>
      require (items.any fun item => (problems follow wanted place item).isEmpty) place v .noneContained
    | _ => []
  | .anyOf choices, place, v => require (0 < countFitting follow choices place v) place v .noneOfAny
  | .exactlyOne choices, place, v =>
    match countFitting follow choices place v with
    | 0 => [⟨place, v, .noneOfOne⟩]
    | 1 => []
    | _ => [⟨place, v, .severalOfOne⟩]
  | .not source excluded, place, v =>
    require (!(problems follow excluded place v).isEmpty) place v (.excluded source)
  | .ifThenElse condition yes no, place, v =>
    if (problems follow condition place v).isEmpty then problems follow yes place v
    else problems follow no place v

/-- What does not fit all of some schemas. -/
def problemsOfAll (follow : String → Check) : List Schema → Path → Json → List Problem
  | [], _, _ => []
  | s :: rest, place, v => problems follow s place v ++ problemsOfAll follow rest place v

/-- What does not fit in the members with the given names. -/
def problemsOfNamed (follow : String → Check) : List (String × Schema) → Path → Fields → List Problem
  | [], _, _ => []
  | (key, s) :: rest, place, members =>
    (match Fields.get? key members with
      | some v => problems follow s (place.under key) v
      | none => []) ++ problemsOfNamed follow rest place members

/-- What does not fit in the members of the given patterns. -/
def problemsOfPatterned (follow : String → Check) :
    List (Matcher × Schema) → Path → Fields → List Problem
  | [], _, _ => []
  | (p, s) :: rest, place, members =>
    eachMember p (problems follow s) place members ++ problemsOfPatterned follow rest place members

/-- What does not fit in an object with some of the given members. -/
def problemsOfDependencies (follow : String → Check) :
    List (String × Schema) → Path → Fields → List Problem
  | [], _, _ => []
  | (key, s) :: rest, place, members =>
    (if members.has key then problems follow s place (.object members) else [])
      ++ problemsOfDependencies follow rest place members

/-- What does not fit when each item has a schema of its own. -/
def problemsInTurn (follow : String → Check) : List Schema → Path → Nat → List Json → List Problem
  | [], _, _, _ => []
  | _ :: _, _, _, [] => []
  | s :: schemas, place, i, v :: items =>
    problems follow s (place.item i) v ++ problemsInTurn follow schemas place (i + 1) items

/-- How many of some schemas a value fits. -/
def countFitting (follow : String → Check) : List Schema → Path → Json → Nat
  | [], _, _ => 0
  | s :: rest, place, v =>
    (if (problems follow s place v).isEmpty then 1 else 0) + countFitting follow rest place v

end

end Schema

end Reconcile
