import Reconcile.Json.Basic

/-!
# Instants

A point in time as a date, a time of day and an offset from universal time, such as
`2024-01-01T02:00:00.5+02:00`. It is read to whole seconds and written in universal time.
-/

namespace Reconcile

/-- Seconds since the start of 1970 in universal time. -/
structure Instant where
  seconds : Int
deriving DecidableEq

namespace Instant

/-- The days from the start of 1970 to a date; a year is counted from its March. -/
def daysTo (year month day : Nat) : Int :=
  let y : Int := if month ≤ 2 then (year : Int) - 1 else year
  let fromMarch : Int := ((month + 9) % 12 : Nat)
  365 * y + Int.fdiv y 4 - Int.fdiv y 100 + Int.fdiv y 400 + Int.fdiv (153 * fromMarch + 2) 5
    + (day : Int) - 719469

/-- How many days a month has. -/
def monthLength (year month : Nat) : Nat :=
  if month = 2 then
    if year % 4 = 0 ∧ (year % 100 ≠ 0 ∨ year % 400 = 0) then 29 else 28
  else if month ∈ [4, 6, 9, 11] then 30
  else 31

/-- Reads exactly so many digits. -/
def readDigits (count : Nat) (cs : List Char) : Option (Nat × List Char) :=
  let digits := cs.take count
  if digits.length = count ∧ digits.all Char.isDigit then
    some (digits.foldl (fun n c => 10 * n + (c.toNat - '0'.toNat)) 0, cs.drop count)
  else none

/-- Reads one of some characters. -/
def readOneOf (allowed : List Char) : List Char → Option (List Char)
  | c :: rest => if allowed.contains c then some rest else none
  | [] => none

/-- Skips a fraction of a second. -/
def skipFraction : List Char → Option (List Char)
  | '.' :: c :: rest => if c.isDigit then some (rest.dropWhile Char.isDigit) else none
  | '.' :: [] => none
  | cs => some cs

/-- Reads an offset to the end, in seconds. -/
def readOffset : List Char → Option Int
  | ['Z'] | ['z'] => some 0
  | sign :: rest => do
    let (hours, rest) ← readDigits 2 rest
    let (minutes, rest) ← readDigits 2 (← readOneOf [':'] rest)
    let size : Int := 3600 * hours + 60 * minutes
    if hours < 24 ∧ minutes < 60 ∧ rest.isEmpty then
      if sign = '+' then some size else if sign = '-' then some (-size) else none
    else none
  | [] => none

/-- Reads an instant. -/
def ofText? (text : String) : Option Instant := do
  let (year, cs) ← readDigits 4 text.toList
  let (month, cs) ← readDigits 2 (← readOneOf ['-'] cs)
  let (day, cs) ← readDigits 2 (← readOneOf ['-'] cs)
  let (hour, cs) ← readDigits 2 (← readOneOf ['T', 't', ' '] cs)
  let (minute, cs) ← readDigits 2 (← readOneOf [':'] cs)
  let (second, cs) ← readDigits 2 (← readOneOf [':'] cs)
  let offset ← readOffset (← skipFraction cs)
  if 1 ≤ month ∧ month ≤ 12 ∧ 1 ≤ day ∧ day ≤ monthLength year month ∧ hour < 24 ∧ minute < 60
      ∧ second < 60 then
    some ⟨86400 * daysTo year month day + 3600 * hour + 60 * minute + second - offset⟩
  else none

/-- The year, month and day that so many days after the start of 1970 lie on. -/
def dateOf (days : Int) : Int × Int × Int :=
  let z := days + 719468
  let era := Int.fdiv z 146097
  let dayOfEra := z - 146097 * era
  let yearOfEra := (dayOfEra - dayOfEra / 1460 + dayOfEra / 36524 - dayOfEra / 146096) / 365
  let dayOfYear := dayOfEra - (365 * yearOfEra + yearOfEra / 4 - yearOfEra / 100)
  let fromMarch := (5 * dayOfYear + 2) / 153
  let day := dayOfYear - (153 * fromMarch + 2) / 5 + 1
  let month := if fromMarch < 10 then fromMarch + 3 else fromMarch - 9
  (yearOfEra + 400 * era + (if month ≤ 2 then 1 else 0), month, day)

/-- A number with zeros before it. -/
def padded (width : Nat) (n : Int) : String :=
  let digits := toString n.toNat
  String.ofList (List.replicate (width - digits.length) '0') ++ digits

/-- Writes an instant in universal time. -/
def text (i : Instant) : String :=
  let days := Int.fdiv i.seconds 86400
  let rest := i.seconds - 86400 * days
  let (year, month, day) := dateOf days
  padded 4 year ++ "-" ++ padded 2 month ++ "-" ++ padded 2 day ++ "T" ++ padded 2 (rest / 3600) ++ ":"
    ++ padded 2 (rest / 60 % 60) ++ ":" ++ padded 2 (rest % 60) ++ "Z"

end Instant

end Reconcile
