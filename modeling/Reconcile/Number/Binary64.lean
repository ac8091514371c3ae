/-!
# Finite binary64 values

A finite binary64 value is held as sign, mantissa and exponent in the one canonical form, so that
equal representations mean equal values (the two zeros apart). The main operation is `round`,
which takes a fraction to the nearest binary64 value, a tie to the even mantissa, and has no
result above the largest finite value. Every other conversion and the arithmetic are built on it.
-/

namespace Reconcile

/-- The mantissa and exponent of one finite binary64 value: 53 bits, with the leading bit set
unless the exponent is the least one. -/
def Binary64.Canonical (mantissa : Nat) (exponent : Int) : Prop :=
  mantissa < 0x20000000000000 ∧ -1074 ≤ exponent ∧ exponent ≤ 971 ∧
    (0x10000000000000 ≤ mantissa ∨ exponent = -1074)

/-- The form of a value can be checked. -/
instance (mantissa : Nat) (exponent : Int) : Decidable (Binary64.Canonical mantissa exponent) :=
  inferInstanceAs (Decidable (_ ∧ _ ∧ _ ∧ _))

/-- The finite binary64 value `± mantissa · 2 ^ exponent`. -/
structure Binary64 where
  negative : Bool
  mantissa : Nat
  exponent : Int
  canonical : Binary64.Canonical mantissa exponent
deriving DecidableEq

namespace Binary64

/-- The value with this sign, mantissa and exponent, if they are canonical. -/
def make? (negative : Bool) (mantissa : Nat) (exponent : Int) : Option Binary64 :=
  if h : Canonical mantissa exponent then some ⟨negative, mantissa, exponent, h⟩ else none

/-- A zero of either sign. -/
def zero (negative : Bool) : Binary64 := ⟨negative, 0, -1074, by decide⟩

/-- Zero stands in where a value is asked for. -/
instance : Inhabited Binary64 := ⟨zero false⟩

/-- Both zeros are zero. -/
def isZero (x : Binary64) : Bool := x.mantissa == 0

/-- The same magnitude with the other sign. -/
def neg (x : Binary64) : Binary64 := { x with negative := !x.negative }

/-- The magnitude as a fraction. -/
def magnitude (x : Binary64) : Nat × Nat :=
  (x.mantissa * Nat.pow 2 x.exponent.toNat, Nat.pow 2 (-x.exponent).toNat)

/-- The exact value. -/
def toRat (x : Binary64) : Rat :=
  let q := mkRat x.magnitude.1 x.magnitude.2
  if x.negative then -q else q

/-- The quotient rounded to the nearest integer, a half to the even one. -/
def roundHalfEven (num den : Nat) : Nat :=
  let q := num / den
  let r := num % den
  if 2 * r < den ∨ (2 * r = den ∧ q % 2 = 0) then q else q + 1

/-- The greatest `e` with `2 ^ e ≤ num / den`, for positive numbers. -/
def floorLog2 (num den : Nat) : Int :=
  let e : Int := (num.log2 : Int) - den.log2
  if num * Nat.pow 2 (-e).toNat < den * Nat.pow 2 e.toNat then e - 1 else e

/-- The binary64 value nearest to `± num / den`, or none when that is above the largest one. -/
def round (negative : Bool) (num den : Nat) : Option Binary64 :=
  if num = 0 then some (zero negative)
  else
    let e := max (floorLog2 num den - 52) (-1074)
    let m := roundHalfEven (num * Nat.pow 2 (-e).toNat) (den * Nat.pow 2 e.toNat)
    if m = 0x20000000000000 then make? negative 0x10000000000000 (e + 1) else make? negative m e

/-- The nearest value to an integer. -/
def ofInt (z : Int) : Option Binary64 := round (z < 0) z.natAbs 1

/-- The nearest value to `± coefficient · 10 ^ exponent`. -/
def ofDecimal (negative : Bool) (coefficient : Nat) (exponent : Int) : Option Binary64 :=
  round negative (coefficient * Nat.pow 10 exponent.toNat) (Nat.pow 10 (-exponent).toNat)

/-- The rounded product. -/
def mul (x y : Binary64) : Option Binary64 :=
  round (x.negative != y.negative) (x.magnitude.1 * y.magnitude.1) (x.magnitude.2 * y.magnitude.2)

/-- The rounded quotient; there is none by zero. -/
def div (x y : Binary64) : Option Binary64 :=
  if y.isZero then none
  else round (x.negative != y.negative) (x.magnitude.1 * y.magnitude.2) (x.magnitude.2 * y.magnitude.1)

/-- Equality of values: the two zeros are equal, all else is told apart. -/
def sameValue (x y : Binary64) : Bool := (x.isZero && y.isZero) || x == y

/-- A value is the same as itself. -/
theorem sameValue_refl (x : Binary64) : x.sameValue x = true := by simp [sameValue]

/-- Being the same value goes both ways. -/
theorem sameValue_comm (x y : Binary64) : x.sameValue y = y.sameValue x := by
  simp [sameValue, Bool.and_comm, BEq.comm]

end Binary64

end Reconcile
