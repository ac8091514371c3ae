import Reconcile.Json.Basic

/-!
# Reading JSON text

`Json.parse?` reads one value with nothing but blanks around it. Arrays and objects may nest up to
`maxDepth` levels; of members with one key the last is kept. A number is exact when it is an
integer of 64 bits, and `-0` is not; every other number is a binary64 value, computed from the
digits that fit 64 bits and from the power of ten, each rounded first.
-/

namespace Reconcile.Json

/-- The most levels of arrays and objects that a text may nest. -/
def maxDepth : Nat := 127

/-- The four blanks of the format. -/
def isBlank (c : Char) : Bool := c == ' ' || c == '\n' || c == '\t' || c == '\r'

/-- What follows the blanks. -/
def skipBlanks (cs : List Char) : List Char := cs.dropWhile isBlank

/-- The value of a decimal digit. -/
def digitValue (c : Char) : Nat := c.toNat - '0'.toNat

/-- Whether a digit still fits after `significand` in 64 bits. -/
def fitsDigit (significand : Nat) (c : Char) : Bool := significand * 10 + digitValue c < 0x10000000000000000

/-- Takes the digits that fit 64 bits: the significand, how many were taken, and the rest. -/
def takeSignificand (significand count : Nat) : List Char → Nat × Nat × List Char
  | [] => (significand, count, [])
  | c :: rest =>
    if c.isDigit && fitsDigit significand c then
      takeSignificand (significand * 10 + digitValue c) (count + 1) rest
    else (significand, count, c :: rest)

/-- The power of ten as a binary64 value. -/
def powerOfTen (n : Nat) : Option Binary64 := Binary64.ofDecimal false 1 n

/-- Scales down by `10 ^ n`, in steps of at most 308 places. -/
def scaleDown : Nat → Binary64 → Nat → Option Binary64
  | 0, x, _ => some x
  | fuel + 1, x, n =>
    if n ≤ 308 then do x.div (← powerOfTen n)
    else if x.isZero then some x
    else do scaleDown fuel (← x.div (← powerOfTen 308)) (n - 308)

/-- The value of a significand and a power of ten; none when it is too large. -/
def scale (negative : Bool) (significand : Nat) (exponent : Int) : Option Number := do
  let x ← Binary64.ofInt significand
  let scaled ←
    if 0 ≤ exponent then
      if exponent ≤ 308 then do x.mul (← powerOfTen exponent.toNat)
      else if x.isZero then some x
      else none
    else scaleDown 3 x exponent.natAbs
  some (.float (if negative then scaled.neg else scaled))

/-- An exponent after its letter: its value, its sign, and the rest. -/
def readExponent (cs : List Char) : Option (Int × List Char) :=
  let (negative, cs) :=
    match cs with
    | '+' :: rest => (false, rest)
    | '-' :: rest => (true, rest)
    | rest => (false, rest)
  let digits := cs.takeWhile Char.isDigit
  if digits.isEmpty then none
  else
    let n : Int := digits.foldl (fun n c => n * 10 + digitValue c) 0
    some (if negative then -n else n, cs.dropWhile Char.isDigit)

/-- The end of a number that is not an integer: an exponent or nothing. -/
def readScale (negative : Bool) (significand : Nat) (exponent : Int) (cs : List Char) :
    Option (Number × List Char) :=
  match cs with
  | c :: rest =>
    if c == 'e' || c == 'E' then do
      let (shift, rest) ← readExponent rest
      some (← scale negative significand (exponent + shift), rest)
    else do some (← scale negative significand exponent, cs)
  | [] => do some (← scale negative significand exponent, [])

/-- A fraction after its point; digits beyond 64 bits do not count. -/
def readFraction (negative : Bool) (significand : Nat) (exponent : Int) (cs : List Char) :
    Option (Number × List Char) :=
  match cs with
  | c :: _ =>
    if c.isDigit then
      let (significand, count, rest) := takeSignificand significand 0 cs
      readScale negative significand (exponent - count) (rest.dropWhile Char.isDigit)
    else none
  | [] => none

/-- What follows the digits before the point, of which `beyond` did not fit. -/
def readTail (negative : Bool) (significand beyond : Nat) (cs : List Char) : Option (Number × List Char) :=
  match cs with
  | '.' :: rest => readFraction negative significand beyond rest
  | 'e' :: _ | 'E' :: _ => readScale negative significand beyond cs
  | _ =>
    let integer :=
      if beyond = 0 ∧ ¬(negative ∧ significand = 0) then
        Number.ofInt? (if negative then -(significand : Int) else significand)
      else none
    match integer with
    | some n => some (n, cs)
    | none => readScale negative significand beyond cs

/-- A number after its sign; a zero stands alone before the point. -/
def readNumber (negative : Bool) (cs : List Char) : Option (Number × List Char) :=
  let (significand, count, rest) := takeSignificand 0 0 cs
  if count = 0 ∨ (1 < count ∧ cs.head? = some '0') then none
  else readTail negative significand (rest.takeWhile Char.isDigit).length (rest.dropWhile Char.isDigit)

/-- The value of four hexadecimal digits, and the rest. -/
def readHex4 (cs : List Char) : Option (Nat × List Char) :=
  match cs with
  | a :: b :: c :: d :: rest => do
    let n ← [a, b, c, d].foldlM (fun n c => (n * 16 + ·) <$> hexValue c) 0
    some (n, rest)
  | _ => none
where
  /-- The value of one hexadecimal digit. -/
  hexValue (c : Char) : Option Nat :=
    if c.isDigit then some (c.toNat - '0'.toNat)
    else if 'a' ≤ c ∧ c ≤ 'f' then some (c.toNat - 'a'.toNat + 10)
    else if 'A' ≤ c ∧ c ≤ 'F' then some (c.toNat - 'A'.toNat + 10)
    else none

/-- The character after `\u`; one beyond the first plane is written as a pair of surrogates, and
a surrogate never stands alone. -/
def readUnicode (cs : List Char) : Option (Char × List Char) := do
  let (high, rest) ← readHex4 cs
  if high < 0xD800 ∨ 0xE000 ≤ high then some (Char.ofNat high, rest)
  else if high < 0xDC00 then
    match rest with
    | '\\' :: 'u' :: rest => do
      let (low, rest) ← readHex4 rest
      if 0xDC00 ≤ low ∧ low < 0xE000 then
        some (Char.ofNat (0x10000 + (high - 0xD800) * 0x400 + (low - 0xDC00)), rest)
      else none
    | _ => none
  else none

/-- The character after a backslash. -/
def readEscape : List Char → Option (Char × List Char)
  | '"' :: rest => some ('"', rest)
  | '\\' :: rest => some ('\\', rest)
  | '/' :: rest => some ('/', rest)
  | 'b' :: rest => some ('\x08', rest)
  | 'f' :: rest => some ('\x0c', rest)
  | 'n' :: rest => some ('\n', rest)
  | 'r' :: rest => some ('\r', rest)
  | 't' :: rest => some ('\t', rest)
  | 'u' :: rest => readUnicode rest
  | _ => none

/-- The characters up to the closing quote, after those in `read` (in reverse). -/
def readString : Nat → List Char → List Char → Option (String × List Char)
  | 0, _, _ => none
  | fuel + 1, read, cs =>
    match cs with
    | [] => none
    | '"' :: rest => some (String.ofList read.reverse, rest)
    | '\\' :: rest => do
      let (c, rest) ← readEscape rest
      readString fuel (c :: read) rest
    | c :: rest => if c < ' ' then none else readString fuel (c :: read) rest

mutual

/-- Reads one value from its first character on. -/
def readValue : Nat → Nat → List Char → Option (Json × List Char)
  | 0, _, _ => none
  | fuel + 1, room, cs =>
    match cs with
    | 'n' :: 'u' :: 'l' :: 'l' :: rest => some (.null, rest)
    | 't' :: 'r' :: 'u' :: 'e' :: rest => some (.bool true, rest)
    | 'f' :: 'a' :: 'l' :: 's' :: 'e' :: rest => some (.bool false, rest)
    | '"' :: rest => do
      let (s, rest) ← readString (rest.length + 1) [] rest
      some (.string s, rest)
    | '[' :: rest =>
      if room = 0 then none
      else
        match skipBlanks rest with
        | ']' :: rest => some (.array [], rest)
        | rest => do
          let (items, rest) ← readItems fuel (room - 1) rest
          some (.array items, rest)
    | '{' :: rest =>
      if room = 0 then none
      else
        match skipBlanks rest with
        | '}' :: rest => some (.object [], rest)
        | rest => do
          let (members, rest) ← readMembers fuel (room - 1) rest
          some (.ofMembers members, rest)
    | '-' :: rest => do
      let (n, rest) ← readNumber true rest
      some (.number n, rest)
    | rest => do
      let (n, rest) ← readNumber false rest
      some (.number n, rest)

/-- Reads the items of an array from the first one to the closing bracket. -/
def readItems : Nat → Nat → List Char → Option (List Json × List Char)
  | 0, _, _ => none
  | fuel + 1, room, cs => do
    let (v, rest) ← readValue fuel room cs
    match skipBlanks rest with
    | ',' :: rest => do
      let (items, rest) ← readItems fuel room (skipBlanks rest)
      some (v :: items, rest)
    | ']' :: rest => some ([v], rest)
    | _ => none

/-- Reads the members of an object from the first one to the closing brace. -/
def readMembers : Nat → Nat → List Char → Option (List (String × Json) × List Char)
  | 0, _, _ => none
  | fuel + 1, room, cs =>
    match cs with
    | '"' :: rest => do
      let (k, rest) ← readString (rest.length + 1) [] rest
      match skipBlanks rest with
      | ':' :: rest => do
        let (v, rest) ← readValue fuel room (skipBlanks rest)
        match skipBlanks rest with
        | ',' :: rest => do
          let (members, rest) ← readMembers fuel room (skipBlanks rest)
          some ((k, v) :: members, rest)
        | '}' :: rest => some ([(k, v)], rest)
        | _ => none
      | _ => none
    | _ => none

end

/-- The value that a text denotes, if it is JSON. -/
def parse? (text : String) : Option Json := do
  let cs := skipBlanks text.toList
  let (v, rest) ← readValue (cs.length + 1) maxDepth cs
  if (skipBlanks rest).isEmpty then some v else none

end Reconcile.Json
