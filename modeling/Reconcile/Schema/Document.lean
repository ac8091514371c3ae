import Reconcile.Pattern.Parser
import Reconcile.Schema.Reader
import Reconcile.Text.Blank
import Reconcile.Text.Percent

/-!
# Schema documents and references

A reference names a part of the document it stands in by a pointer behind a hash sign. It is
read as a relative address: bytes that stand for themselves in no address are written with a
percent sign, and all that is so written is decoded before the pointer is followed. What the
document does not hold is reported where the reference is met.
-/

namespace Reconcile.Schema

/-- The address of every document. -/
def documentAddress : String := "json-schema:///"

/-- Whether a character stands for itself in the part of an address behind the hash sign. -/
def isPlainInFragment (c : Char) : Bool :=
  ' ' < c && c ≤ '~' && ['"', '<', '>', '`'].all (· != c)

/-- The part of an address behind the hash sign, as addresses are written. -/
def encodeFragment (cs : List Char) : List Char :=
  cs.flatMap fun c =>
    if isPlainInFragment c then [c] else Text.percentChar c

/-- The bytes of a text in which percent signs introduce bytes. -/
def decodePercent : List Char → List UInt8
  | '%' :: a :: b :: rest =>
    match Pattern.hexDigit? a, Pattern.hexDigit? b with
    | some x, some y => (16 * x + y).toUInt8 :: decodePercent rest
    | _, _ => '%'.toString.toUTF8.data.toList ++ decodePercent (a :: b :: rest)
  | c :: rest => c.toString.toUTF8.data.toList ++ decodePercent rest
  | [] => []
termination_by cs => cs.length

/-- A reference without what does not count in addresses. -/
def cleanReference (cs : List Char) : List Char :=
  let isOuter (c : Char) : Bool := c ≤ ' '
  (((cs.dropWhile isOuter).reverse.dropWhile isOuter).reverse).filter fun c =>
    ['\t', '\n', '\r'].all (· != c)

/-- One step of a pointer, with its two escapes decoded. -/
def pointerToken : List Char → List Char
  | '~' :: '1' :: rest => '/' :: pointerToken rest
  | '~' :: '0' :: rest => '~' :: pointerToken rest
  | c :: rest => c :: pointerToken rest
  | [] => []

/-- An index of a list in a pointer: digits without a needless zero. -/
def pointerIndex? (token : String) : Option Nat :=
  let cs := token.toList
  if cs.isEmpty || !cs.all Char.isDigit || (cs.length != 1 && cs.head? == some '0') then none
  else some (cs.foldl (fun n c => 10 * n + (c.toNat - 48)) 0)

/-- Follows the steps of a pointer. -/
def followPointer : List String → Json → Option Json
  | [], v => some v
  | token :: rest, .object members => do followPointer rest (← Fields.get? token members)
  | token :: rest, .array items => do followPointer rest (← items[← pointerIndex? token]?)
  | _ :: _, _ => none

/-- The part of a document that a pointer leads to. -/
def pointed (document : Json) (pointer : String) : Option Json :=
  if pointer = "" then some document
  else
    match pointer.toList.splitOn '/' with
    | [] :: tokens => followPointer (tokens.map fun t => String.ofList (pointerToken t)) document
    | _ => none

variable [PatternLanguage]

/-- The part of a document that a reference stands for, read as a schema. -/
def resolve (document : Json) (target : String) : Except Problem Schema :=
  let cs := cleanReference target.toList
  let before := cs.takeWhile (· != '#')
  let fragment := encodeFragment ((cs.dropWhile (· != '#')).drop 1)
  let address :=
    documentAddress ++ String.ofList before ++ (if cs.contains '#' then "#" else "") ++ String.ofList fragment
  let missing : Problem := ⟨[], .null, .noSuchReference address⟩
  if !before.isEmpty then .error missing
  else
    match String.fromUTF8? ⟨(decodePercent fragment).toArray⟩ with
    | none => .error missing
    | some pointer =>
      match pointed document pointer with
      | some v => read [] v
      | none => .error missing

/-- Checks what references stand for, through at most so many of them in a row. -/
def following (document : Json) : Nat → String → Check
  | 0, _, _, _ => []
  | n + 1, target, place, v =>
    match resolve document target with
    | .ok s => s.problems (following document n) place v
    | .error p => [p]

end Reconcile.Schema

namespace Reconcile.Json

mutual

/-- How many values there are in a value, itself included. -/
def size : Json → Nat
  | .array items => itemsSize items + 1
  | .object members => fieldsSize members + 1
  | _ => 1

/-- How many values there are in a list. -/
def itemsSize : List Json → Nat
  | [] => 0
  | v :: rest => v.size + itemsSize rest

/-- How many values there are in members. -/
def fieldsSize : List (String × Json) → Nat
  | [] => 0
  | (_, v) :: rest => v.size + fieldsSize rest

end

end Reconcile.Json

namespace Reconcile.Schema

variable [PatternLanguage]

/-- What does not fit in an instance of the schema that a document is. References that lead to each other
without end are given up once they outnumber the places they can be met at. -/
def problemsIn (document : Json) (v : Json) : List Problem :=
  match read [] document with
  | .ok s => s.problems (following document (document.size * (v.depth + 1) + 1)) [] v
  | .error p => [p]

end Reconcile.Schema
