import Mathlib.Algebra.Order.Field.Rat
import Mathlib.Data.Rat.Lemmas
import Reconcile.Number.Basic

/-!
# Rounding integers to binary64

Integers of up to 53 bits are held exactly as binary64 values, and so is `2 ^ 53`; the next integer is
the first that is not. As long as two integers stay within that bound, they have the same binary64 value
only if they are equal.
-/

namespace Reconcile

namespace Binary64

variable {x y z : Binary64}

/-- Two values are the same when they are equal, or both zero. -/
theorem sameValue_iff : x.sameValue y = true ↔ (x.isZero = true ∧ y.isZero = true) ∨ x = y := by
  simp [sameValue]

/-- As binary64 values, what is the same as one value is the same. -/
theorem sameValue_trans (hxy : x.sameValue y = true) (hyz : y.sameValue z = true) : x.sameValue z = true := by
  rw [sameValue_iff] at hxy hyz ⊢
  rcases hxy with ⟨hx, hy⟩ | rfl
  · rcases hyz with ⟨-, hz⟩ | rfl
    · exact .inl ⟨hx, hz⟩
    · exact .inl ⟨hx, hy⟩
  · exact hyz

/-- Zero is zero in either sign. -/
theorem toRat_of_isZero (h : x.isZero = true) : x.toRat = 0 := by
  have hmantissa : x.mantissa = 0 := eq_of_beq h
  simp [toRat, magnitude, hmantissa]

/-- Values that are the same stand for one number. -/
theorem toRat_eq_of_sameValue (h : x.sameValue y = true) : x.toRat = y.toRat := by
  rcases sameValue_iff.mp h with ⟨hx, hy⟩ | rfl
  · rw [toRat_of_isZero hx, toRat_of_isZero hy]
  · rfl

/-- The exponent of an integer is that of its leading bit. -/
theorem floorLog2_one {n : Nat} (h : n ≠ 0) : floorLog2 n 1 = n.log2 := by
  have hle : 2 ^ n.log2 ≤ n := Nat.log2_self_le h
  have hone : Nat.log2 1 = 0 := by decide
  have hcheck : ¬n * Nat.pow 2 (-(n.log2 : Int)).toNat < 1 * Nat.pow 2 (n.log2 : Int).toNat := by
    simpa using hle
  simp only [floorLog2, hone, Nat.cast_zero, sub_zero, if_neg hcheck]

/-- An integer of up to 53 bits is shifted until its leading bit is the leading bit of the mantissa. -/
theorem round_integer {n : Nat} (hne : n ≠ 0) (hlt : n < 0x20000000000000) (negative : Bool) :
    ∃ h, round negative n 1 = some ⟨negative, n * 2 ^ (52 - n.log2), (n.log2 : Int) - 52, h⟩ := by
  have hlog : n.log2 < 53 := (Nat.log2_lt hne).mpr (by simpa using hlt)
  have hlow : 2 ^ n.log2 ≤ n := Nat.log2_self_le hne
  have hhigh : n < 2 ^ (n.log2 + 1) := Nat.lt_log2_self
  have hshift : 2 ^ n.log2 * 2 ^ (52 - n.log2) = 0x10000000000000 := by
    rw [← pow_add, show n.log2 + (52 - n.log2) = 52 by omega]
    rfl
  have hmin : 0x10000000000000 ≤ n * 2 ^ (52 - n.log2) := hshift ▸ Nat.mul_le_mul_right _ hlow
  have hmax : n * 2 ^ (52 - n.log2) < 0x20000000000000 := by
    calc n * 2 ^ (52 - n.log2) < 2 ^ (n.log2 + 1) * 2 ^ (52 - n.log2) :=
          Nat.mul_lt_mul_of_pos_right hhigh (Nat.two_pow_pos _)
      _ = 0x20000000000000 := by rw [pow_succ, mul_right_comm, hshift]; rfl
  have hexponent : max (floorLog2 n 1 - 52) (-1074) = (n.log2 : Int) - 52 := by
    rw [floorLog2_one hne]
    omega
  have hup : (-((n.log2 : Int) - 52)).toNat = 52 - n.log2 := by omega
  have hdown : ((n.log2 : Int) - 52).toNat = 0 := by omega
  have hwhole (k : Nat) : roundHalfEven k 1 = k := by simp [roundHalfEven, Nat.mod_one]
  have hcanonical : Canonical (n * 2 ^ (52 - n.log2)) ((n.log2 : Int) - 52) :=
    ⟨hmax, by omega, by omega, .inl hmin⟩
  refine ⟨hcanonical, ?_⟩
  simp only [round, if_neg hne, hexponent, hup, hdown, Nat.pow_eq, pow_zero, mul_one, hwhole,
    if_neg hmax.ne, make?, dif_pos hcanonical]

/-- Integers of up to 53 bits are held exactly, and so is the first one of 54 bits. -/
theorem round_exact {n : Nat} (hne : n ≠ 0) (h : n ≤ 0x20000000000000) (negative : Bool) :
    ∃ x k, round negative n 1 = some x ∧ x.negative = negative ∧ x.magnitude = (n * 2 ^ k, 2 ^ k) := by
  rcases Nat.lt_or_eq_of_le h with hlt | rfl
  · obtain ⟨hcanonical, hround⟩ := round_integer hne hlt negative
    have hlog : n.log2 < 53 := (Nat.log2_lt hne).mpr (by simpa using hlt)
    have hup : (-((n.log2 : Int) - 52)).toNat = 52 - n.log2 := by omega
    have hdown : ((n.log2 : Int) - 52).toNat = 0 := by omega
    exact ⟨_, 52 - n.log2, hround, rfl, by simp only [magnitude, hup, hdown, Nat.pow_eq, pow_zero, mul_one]⟩
  · -- one bit more, but it is a power of two, so nothing is lost in the shift
    refine ⟨⟨negative, 0x10000000000000, 1, by decide⟩, 0, ?_, rfl, by simp [magnitude]⟩
    cases negative <;> decide

/-- The exact value of an integer that is held exactly. -/
theorem toRat_ofInt {i : Int} (h : i.natAbs ≤ 0x20000000000000) :
    ∃ x, ofInt i = some x ∧ x.toRat = i := by
  by_cases hzero : i = 0
  · subst hzero
    exact ⟨zero false, rfl, toRat_of_isZero rfl⟩
  obtain ⟨x, k, hround, hnegative, hmagnitude⟩ := round_exact (Int.natAbs_ne_zero.mpr hzero) h (i < 0)
  have hvalue : mkRat (i.natAbs * 2 ^ k : Nat) (2 ^ k) = (i.natAbs : Int) := by
    rw [Rat.mkRat_eq_div]
    push_cast
    exact mul_div_cancel_right₀ _ (pow_ne_zero k two_ne_zero)
  refine ⟨x, hround, ?_⟩
  rw [toRat, hmagnitude, hnegative]
  simp only [hvalue, decide_eq_true_eq]
  split
  next hneg => rw [show (i.natAbs : Int) = -i by omega, Int.cast_neg, neg_neg]
  next hpos => rw [show (i.natAbs : Int) = i by omega]

end Binary64

/-- Integers of that size have one binary64 value only if they are equal. -/
theorem WideInt.eq_of_sameValue {m n : WideInt} (hm : m.val.natAbs ≤ 0x20000000000000)
    (hn : n.val.natAbs ≤ 0x20000000000000)
    (h : (Number.integer m).toBinary64.sameValue (Number.integer n).toBinary64 = true) : m = n := by
  obtain ⟨x, hx, hxm⟩ := Binary64.toRat_ofInt hm
  obtain ⟨y, hy, hyn⟩ := Binary64.toRat_ofInt hn
  rw [Number.toBinary64, Number.toBinary64, hx, hy] at h
  have hvalue : (m.val : Rat) = n.val := by
    rw [← hxm, ← hyn]
    exact Binary64.toRat_eq_of_sameValue h
  exact Subtype.ext (Rat.intCast_injective hvalue)

end Reconcile
