import Reconcile.Number.Basic

/-!
# The meaning of plain scalars

Which plain scalars are null, truth values or numbers. Integers are decimal, hexadecimal, octal or
binary and may have a sign; digits behind a leading zero are no number. An integer that needs more
than 64 bits but not more than 128 is out of range, a longer one is read as a fraction would be.
-/

namespace Reconcile.Yaml.Plain

/-- The spellings of null, the empty one apart. -/
def isNull (s : String) : Bool := s == "null" || s == "Null" || s == "NULL" || s == "~"

/-- The spellings of the truth values. -/
def bool? (s : String) : Option Bool :=
  if s == "true" || s == "True" || s == "TRUE" then some true
  else if s == "false" || s == "False" || s == "FALSE" then some false
  else none

/-- Whether a text is a decimal number but for zeros in front. -/
def isPadded (cs : List Char) : Bool :=
  let digits := match cs with
    | '-' :: rest | '+' :: rest => rest
    | rest => rest
  match digits with
  | '0' :: d :: rest => (d :: rest).all Char.isDigit
  | _ => false

/-- The value of a digit in a base. -/
def digit? (base : Nat) (c : Char) : Option Nat :=
  let value? : Option Nat :=
    if c.isDigit then some (c.toNat - '0'.toNat)
    else if 'a' ≤ c ∧ c ≤ 'f' then some (c.toNat - 'a'.toNat + 10)
    else if 'A' ≤ c ∧ c ≤ 'F' then some (c.toNat - 'A'.toNat + 10)
    else none
  value?.filter (· < base)

/-- The value of a row of digits in a base; an empty row has none. -/
def digits? (base : Nat) (cs : List Char) : Option Nat :=
  if cs.isEmpty then none else cs.foldlM (fun n c => (n * base + ·) <$> digit? base c) 0

/-- The value of a whole number without sign, in the base that its first characters tell. -/
def magnitude? (cs : List Char) : Option Nat :=
  match cs with
  | '0' :: 'x' :: rest => digits? 16 rest
  | '0' :: 'o' :: rest => digits? 8 rest
  | '0' :: 'b' :: rest => digits? 2 rest
  | cs => if isPadded cs then none else digits? 10 cs

/-- What a text is as an integer. -/
inductive Integer where
  | exact (z : WideInt)
  | outOfRange
  | notOne

/-- Reads an integer. -/
def integer (s : String) : Integer :=
  let found : Option (Int × Int) :=
    match s.toList with
    | '-' :: rest => (magnitude? rest).map fun n => (-(n : Int), 0x80000000000000000000000000000000)
    | '+' :: rest => (magnitude? rest).map fun n => ((n : Int), 0xFFFFFFFFFFFFFFFFFFFFFFFFFFFFFFFF)
    | cs => (magnitude? cs).map fun n => ((n : Int), 0xFFFFFFFFFFFFFFFFFFFFFFFFFFFFFFFF)
  match found with
  | none => .notOne
  | some (z, limit) =>
    match WideInt.ofInt? z with
    | some z => .exact z
    | none => if z.natAbs ≤ limit then .outOfRange else .notOne

/-- A number with a fraction, an exponent or both. -/
inductive Float where
  | finite (x : Binary64)
  | notFinite
  | notOne

/-- Takes a row of decimal digits. -/
def takeDigits (cs : List Char) : List Char × List Char :=
  (cs.takeWhile Char.isDigit, cs.dropWhile Char.isDigit)

/-- The exponent at the end of a number; nothing may follow it. -/
def exponent? : List Char → Option Int
  | [] => some 0
  | c :: rest =>
    if c == 'e' || c == 'E' then
      match rest with
      | '-' :: ds => (digits? 10 ds).map fun n => -(n : Int)
      | '+' :: ds => (digits? 10 ds).map fun n => (n : Int)
      | ds => (digits? 10 ds).map fun n => (n : Int)
    else none

/-- The nearest binary64 value of a decimal number without sign. -/
def decimal? (negative : Bool) (cs : List Char) : Option Binary64 := do
  let (whole, rest) := takeDigits cs
  let (fraction, rest) := match rest with
    | '.' :: rest => takeDigits rest
    | rest => ([], rest)
  if whole.isEmpty && fraction.isEmpty then none
  else
    let exponent ← exponent? rest
    let coefficient ← digits? 10 (whole ++ fraction)
    let exponent := exponent - fraction.length
    -- beyond these bounds the value is zero or too large whatever the digits
    if coefficient == 0 || exponent + (whole.length + fraction.length) < -400 then some (.zero negative)
    else if exponent > 400 then none
    else Binary64.ofDecimal negative coefficient exponent

/-- Reads a number that need not be an integer. -/
def float (s : String) : Float :=
  if s ∈ [".inf", ".Inf", ".INF", "+.inf", "+.Inf", "+.INF", "-.inf", "-.Inf", "-.INF", ".nan", ".NaN", ".NAN"] then
    .notFinite
  else
    let value? := match s.toList with
      | '+' :: rest => decimal? false rest
      | '-' :: rest => decimal? true rest
      | cs => decimal? false cs
    match value? with
    | some x => .finite x
    | none => .notOne

end Reconcile.Yaml.Plain
