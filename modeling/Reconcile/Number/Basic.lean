import Reconcile.Number.Shortest

/-!
# Numbers

A number is an exact integer of 64 bits, signed or unsigned, or a finite binary64 value. The two
are kept apart in text (`1` and `1.0`) and compared by `Number.sameValue`: integers exactly,
everything else after rounding to binary64. That comparison is reflexive and symmetric, and it is
not transitive above `2 ^ 53`, where two integers round to one binary64 value.
-/

namespace Reconcile

/-- The integers that are held exactly: those of 64 bits, signed or unsigned. -/
abbrev WideInt := { z : Int // -0x8000000000000000 ≤ z ∧ z < 0x10000000000000000 }

namespace WideInt

/-- An integer, if it can be held exactly. -/
def ofInt? (z : Int) : Option WideInt :=
  if h : -0x8000000000000000 ≤ z ∧ z < 0x10000000000000000 then some ⟨z, h⟩ else none

/-- The integer zero. -/
def zero : WideInt := ⟨0, by decide⟩

end WideInt

/-- A number as it is read and written. -/
inductive Number where
  | integer (z : WideInt)
  | float (x : Binary64)
deriving DecidableEq

namespace Number

/-- An integer, if it can be held exactly. -/
def ofInt? (z : Int) : Option Number := (WideInt.ofInt? z).map .integer

/-- Zero stands in where a number is asked for. -/
instance : Inhabited Number := ⟨.integer .zero⟩

/-- The nearest binary64 value; an exact integer is never too large for one. -/
def toBinary64 : Number → Binary64
  | .integer z => (Binary64.ofInt z.val).getD default
  | .float x => x

/-- The exact value. -/
def toRat : Number → Rat
  | .integer z => z.val
  | .float x => x.toRat

/-- Equality of numbers whatever their representation: two integers compare exactly, any other
pair as binary64 values. -/
def sameValue : Number → Number → Bool
  | .integer a, .integer b => a.val == b.val
  | a, b => a.toBinary64.sameValue b.toBinary64

/-- Whether the number is zero in either representation. -/
def isZero : Number → Bool
  | .integer z => z.val == 0
  | .float x => x.isZero

/-- Decimal text: integers as digits, binary64 values always with a point or an exponent. -/
def text : Number → String
  | .integer z => toString z.val
  | .float x => x.text

/-- A number is of the same value as itself. -/
theorem sameValue_refl (a : Number) : a.sameValue a = true := by
  cases a with
  | integer a => simp [sameValue]
  | float a => exact Binary64.sameValue_refl _

/-- Being of the same value goes both ways. -/
theorem sameValue_comm (a b : Number) : a.sameValue b = b.sameValue a := by
  cases a with
  | integer a =>
    cases b with
    | integer b => exact BEq.comm
    | float b => exact Binary64.sameValue_comm _ _
  | float a => cases b <;> exact Binary64.sameValue_comm _ _

end Number

end Reconcile
