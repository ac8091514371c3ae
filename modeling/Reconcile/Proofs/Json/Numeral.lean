import Mathlib.Data.List.Basic
import Reconcile.Json.Parser

/-!
# Reading numbers in context

A number ends at the first character that cannot belong to it, so what is read of a text does not
depend on what follows, as long as that starts with no such character. The digits of an integer of 64
bits are read as that integer.
-/

namespace Reconcile.Json

/-- No number goes on with what starts so. -/
def EndsNumber (rest : List Char) : Prop :=
  ∀ c ∈ rest.head?, c.isDigit = false ∧ c ≠ '.' ∧ c ≠ 'e' ∧ c ≠ 'E'

/-- The digits of an exponent behind its sign. -/
def readExponentDigits (negative : Bool) (cs : List Char) : Option (Int × List Char) :=
  let digits := cs.takeWhile Char.isDigit
  if digits.isEmpty then none
  else
    let n : Int := digits.foldl (fun n c => n * 10 + digitValue c) 0
    some (if negative then -n else n, cs.dropWhile Char.isDigit)

/-- An exponent behind a plus sign is positive. -/
theorem readExponent_plus (cs : List Char) : readExponent ('+' :: cs) = readExponentDigits false cs := rfl

/-- Behind a minus sign it is negative. -/
theorem readExponent_minus (cs : List Char) : readExponent ('-' :: cs) = readExponentDigits true cs := rfl

/-- Without a sign it is positive. -/
theorem readExponent_unsigned {c : Char} (hplus : c ≠ '+') (hminus : c ≠ '-') (cs : List Char) :
    readExponent (c :: cs) = readExponentDigits false (c :: cs) := by
  unfold readExponent
  split
  next heq =>
    split at heq
    next h => exact absurd (List.cons.inj h).1 hplus
    next h => exact absurd (List.cons.inj h).1 hminus
    next =>
      obtain ⟨rfl, rfl⟩ := Prod.mk.inj heq
      rfl

/-- The integer that digits without a fraction or an exponent stand for, if it can be held exactly. -/
def readInteger? (negative : Bool) (significand beyond : Nat) : Option Number :=
  if beyond = 0 ∧ ¬(negative ∧ significand = 0) then
    Number.ofInt? (if negative then -(significand : Int) else significand)
  else none

/-- Without a fraction and an exponent a number is an integer, or a rounded one when that is too large. -/
theorem readTail_plain {cs : List Char} (h : ∀ c ∈ cs.head?, c ≠ '.' ∧ c ≠ 'e' ∧ c ≠ 'E')
    (negative : Bool) (significand beyond : Nat) :
    readTail negative significand beyond cs =
      match readInteger? negative significand beyond with
      | some n => some (n, cs)
      | none => readScale negative significand beyond cs := by
  unfold readTail
  split
  next => exact absurd rfl (h '.' rfl).1
  next => exact absurd rfl (h 'e' rfl).2.1
  next => exact absurd rfl (h 'E' rfl).2.2
  next => rfl

section Append

variable {rest : List Char} (h : EndsNumber rest)

include h

/-- Digits are taken as if they ended there, whatever follows that is no digit. -/
theorem takeSignificand_append (significand count : Nat) (cs : List Char) :
    takeSignificand significand count (cs ++ rest) =
      let read := takeSignificand significand count cs
      (read.1, read.2.1, read.2.2 ++ rest) := by
  induction cs generalizing significand count with
  | nil =>
    cases rest with
    | nil => rfl
    | cons c rest => simp [takeSignificand, (h c rfl).1]
  | cons c cs ih =>
    rw [List.cons_append, takeSignificand, takeSignificand]
    split
    · exact ih _ _
    · rfl

/-- The digits in front of a text stay the same when no digit follows it. -/
theorem takeWhile_isDigit_append (cs : List Char) :
    (cs ++ rest).takeWhile Char.isDigit = cs.takeWhile Char.isDigit := by
  induction cs with
  | nil =>
    cases rest with
    | nil => rfl
    | cons c rest => simp [(h c rfl).1]
  | cons c cs ih => simp [List.takeWhile_cons, ih]

/-- What is left behind them has the rest at its end. -/
theorem dropWhile_isDigit_append (cs : List Char) :
    (cs ++ rest).dropWhile Char.isDigit = cs.dropWhile Char.isDigit ++ rest := by
  induction cs with
  | nil =>
    cases rest with
    | nil => rfl
    | cons c rest => simp [(h c rfl).1]
  | cons c cs ih =>
    rw [List.cons_append, List.dropWhile_cons, List.dropWhile_cons, ih]
    split <;> rfl

variable {cs after : List Char}

/-- The digits of an exponent are read as if they ended there. -/
theorem readExponentDigits_append {negative : Bool} {e : Int}
    (hread : readExponentDigits negative cs = some (e, after)) :
    readExponentDigits negative (cs ++ rest) = some (e, after ++ rest) := by
  unfold readExponentDigits at hread ⊢
  rw [takeWhile_isDigit_append h, dropWhile_isDigit_append h]
  dsimp only at hread ⊢
  rw [Option.ite_none_left_eq_some] at hread ⊢
  obtain ⟨hsome, hvalue⟩ := hread
  obtain ⟨rfl, rfl⟩ := Prod.mk.inj (Option.some.inj hvalue)
  exact ⟨hsome, rfl⟩

/-- So is an exponent. -/
theorem readExponent_append {e : Int} (hread : readExponent cs = some (e, after)) :
    readExponent (cs ++ rest) = some (e, after ++ rest) := by
  cases cs with
  | nil => simp [readExponent] at hread
  | cons c cs =>
    by_cases hplus : c = '+'
    · rw [hplus, readExponent_plus] at hread
      rw [hplus, List.cons_append, readExponent_plus]
      exact readExponentDigits_append h hread
    · by_cases hminus : c = '-'
      · rw [hminus, readExponent_minus] at hread
        rw [hminus, List.cons_append, readExponent_minus]
        exact readExponentDigits_append h hread
      · rw [readExponent_unsigned hplus hminus] at hread
        rw [List.cons_append, readExponent_unsigned hplus hminus]
        exact readExponentDigits_append h hread

variable {negative : Bool} {significand : Nat} {n : Number}

/-- So is what may follow the digits of a number. -/
theorem readScale_append {exponent : Int}
    (hread : readScale negative significand exponent cs = some (n, after)) :
    readScale negative significand exponent (cs ++ rest) = some (n, after ++ rest) := by
  cases cs with
  | nil =>
    rw [readScale, Option.bind_eq_bind, Option.bind_eq_some_iff] at hread
    obtain ⟨x, hscale, hx⟩ := hread
    obtain ⟨rfl, rfl⟩ := Prod.mk.inj (Option.some.inj hx)
    cases rest with
    | nil => simp [readScale, hscale]
    | cons c rest =>
      obtain ⟨-, -, he, hE⟩ := h c rfl
      simp [readScale, he, hE, hscale]
  | cons c cs =>
    rw [readScale] at hread
    rw [List.cons_append, readScale]
    split at hread
    next hexponent =>
      rw [if_pos hexponent]
      obtain ⟨⟨shift, afterDigits⟩, hdigits, hread⟩ := Option.bind_eq_some_iff.mp hread
      obtain ⟨x, hscale, hx⟩ := Option.bind_eq_some_iff.mp hread
      obtain ⟨rfl, rfl⟩ := Prod.mk.inj (Option.some.inj hx)
      simp [readExponent_append h hdigits, hscale]
    next hplain =>
      rw [if_neg hplain]
      obtain ⟨x, hscale, hx⟩ := Option.bind_eq_some_iff.mp hread
      obtain ⟨rfl, rfl⟩ := Prod.mk.inj (Option.some.inj hx)
      simp [hscale]

/-- So is a fraction. -/
theorem readFraction_append {exponent : Int}
    (hread : readFraction negative significand exponent cs = some (n, after)) :
    readFraction negative significand exponent (cs ++ rest) = some (n, after ++ rest) := by
  cases cs with
  | nil => simp [readFraction] at hread
  | cons c cs =>
    rw [readFraction] at hread
    rw [List.cons_append, readFraction, ← List.cons_append, takeSignificand_append h]
    split at hread
    next hdigit =>
      rw [if_pos hdigit]
      dsimp only at hread ⊢
      rw [dropWhile_isDigit_append h]
      exact readScale_append h hread
    next => simp at hread

/-- So is what follows the digits before the point. -/
theorem readTail_append {beyond : Nat} (hread : readTail negative significand beyond cs = some (n, after)) :
    readTail negative significand beyond (cs ++ rest) = some (n, after ++ rest) := by
  by_cases hplain : ∀ c ∈ cs.head?, c ≠ '.' ∧ c ≠ 'e' ∧ c ≠ 'E'
  · have hplain' : ∀ c ∈ (cs ++ rest).head?, c ≠ '.' ∧ c ≠ 'e' ∧ c ≠ 'E' := by
      cases cs with
      | nil => exact fun c hc => (h c hc).2
      | cons c cs => exact hplain
    rw [readTail_plain hplain] at hread
    rw [readTail_plain hplain']
    cases hinteger : readInteger? negative significand beyond with
    | none =>
      rw [hinteger] at hread
      exact readScale_append h hread
    | some m =>
      rw [hinteger] at hread
      obtain ⟨rfl, rfl⟩ := Prod.mk.inj (Option.some.inj hread)
      rfl
  · cases cs with
    | nil => simp at hplain
    | cons c cs =>
      have hmark : c = '.' ∨ c = 'e' ∨ c = 'E' :=
        Decidable.byContradiction fun hne => hplain (by simpa [not_or] using hne)
      rcases hmark with rfl | rfl | rfl
      · exact readFraction_append h hread
      · have hscale : readScale negative significand beyond ('e' :: cs) = some (n, after) := hread
        exact readScale_append h hscale
      · have hscale : readScale negative significand beyond ('E' :: cs) = some (n, after) := hread
        exact readScale_append h hscale

/-- A number is read alike whatever follows it. -/
theorem readNumber_append (hread : readNumber negative cs = some (n, after)) :
    readNumber negative (cs ++ rest) = some (n, after ++ rest) := by
  unfold readNumber at hread ⊢
  rw [takeSignificand_append h]
  dsimp only at hread ⊢
  rw [takeWhile_isDigit_append h, dropWhile_isDigit_append h]
  rw [Option.ite_none_left_eq_some] at hread ⊢
  obtain ⟨hcount, hread⟩ := hread
  cases cs with
  | nil => exact absurd (.inl rfl) hcount
  | cons c cs => exact ⟨hcount, readTail_append h hread⟩

end Append

section Integer

/-- Further digits make no number smaller. -/
theorem le_ofDigitChars (cs : List Char) (significand : Nat) :
    significand ≤ Nat.ofDigitChars 10 cs significand := by
  induction cs generalizing significand with
  | nil => exact Nat.le_refl significand
  | cons c cs ih =>
    rw [Nat.ofDigitChars_cons]
    exact Nat.le_trans (by omega) (ih _)

/-- Digits that stand for a number of 64 bits are all taken. -/
theorem takeSignificand_digits {cs rest : List Char} (h : EndsNumber rest)
    (hdigits : ∀ c ∈ cs, c.isDigit = true) {significand : Nat}
    (hfits : Nat.ofDigitChars 10 cs significand < 0x10000000000000000) (count : Nat) :
    takeSignificand significand count (cs ++ rest) =
      (Nat.ofDigitChars 10 cs significand, count + cs.length, rest) := by
  induction cs generalizing significand count with
  | nil => exact takeSignificand_append h significand count []
  | cons c cs ih =>
    obtain ⟨hdigit, hdigits⟩ := List.forall_mem_cons.mp hdigits
    have hstep : significand * 10 + digitValue c = 10 * significand + (c.toNat - '0'.toNat) := by
      rw [digitValue, Nat.mul_comm]
    rw [Nat.ofDigitChars_cons, ← hstep] at hfits ⊢
    have hfit : fitsDigit significand c = true :=
      decide_eq_true (Nat.lt_of_le_of_lt (le_ofDigitChars cs _) hfits)
    rw [List.cons_append, takeSignificand, hdigit, hfit, Bool.and_self, if_pos rfl, ih hdigits hfits,
      List.length_cons, Nat.add_assoc, Nat.add_comm 1]

/-- A number above zero is written without a leading zero. -/
theorem head?_toDigits_ne_zero {n : Nat} (hpos : 0 < n) : (Nat.toDigits 10 n).head? ≠ some '0' := by
  induction n using Nat.strongRecOn with
  | ind n ih =>
    rw [Nat.toDigits_eq_if (by decide)]
    split
    next =>
      rw [List.head?_cons, ne_eq, Option.some.injEq, Nat.digitChar_eq_zero]
      omega
    next =>
      rw [List.head?_append_of_ne_nil _ Nat.toDigits_ne_nil]
      exact ih (n / 10) (by omega) (by omega)

/-- The digits of a number of 64 bits are read as that number. -/
theorem readNumber_toDigits {rest : List Char} (h : EndsNumber rest) (negative : Bool) {n : Nat}
    (hn : n < 0x10000000000000000) :
    readNumber negative (Nat.toDigits 10 n ++ rest) = readTail negative n 0 rest := by
  have hvalue : Nat.ofDigitChars 10 (Nat.toDigits 10 n) 0 = n := Nat.ofDigitChars_ten_toDigits
  have hdigits : ∀ c ∈ Nat.toDigits 10 n, c.isDigit = true := fun c hc =>
    Nat.isDigit_of_mem_toDigits (by decide) (by decide) hc
  have hleading : ¬((Nat.toDigits 10 n).length = 0 ∨
      1 < (Nat.toDigits 10 n).length ∧ (Nat.toDigits 10 n ++ rest).head? = some '0') := by
    rintro (hnone | ⟨hmore, hzero⟩)
    · exact absurd hnone (Nat.ne_of_gt Nat.length_toDigits_pos)
    · rw [List.head?_append_of_ne_nil _ Nat.toDigits_ne_nil] at hzero
      obtain rfl : n = 0 := by
        by_contra hne
        exact head?_toDigits_ne_zero (Nat.pos_of_ne_zero hne) hzero
      exact absurd hmore (by decide)
  unfold readNumber
  rw [takeSignificand_digits h hdigits (by rw [hvalue]; exact hn), hvalue, Nat.zero_add]
  dsimp only
  rw [if_neg hleading]
  have htake := takeWhile_isDigit_append h []
  have hdrop := dropWhile_isDigit_append h []
  rw [List.nil_append] at htake hdrop
  rw [htake, hdrop]
  rfl

end Integer

section Value

variable {fuel room : Nat} {rest : List Char}

/-- A number starts with a digit. -/
theorem exists_digit_of_readNumber {negative : Bool} {cs : List Char} {read : Number × List Char}
    (h : readNumber negative cs = some read) : ∃ c digits, cs = c :: digits ∧ c.isDigit = true := by
  unfold readNumber at h
  dsimp only at h
  rw [Option.ite_none_left_eq_some] at h
  cases cs with
  | nil => exact absurd (.inl rfl) h.1
  | cons c digits =>
    refine ⟨c, digits, rfl, Bool.of_not_eq_false fun hdigit => h.1 (.inl ?_)⟩
    rw [takeSignificand, hdigit]
    rfl

/-- A value that starts with a minus sign is a number. -/
theorem readValue_minus (cs : List Char) :
    readValue (fuel + 1) room ('-' :: cs) = (readNumber true cs).map fun (n, rest) => (.number n, rest) := by
  rw [readValue]
  cases readNumber true cs <;> rfl

/-- So is one that starts with a digit. -/
theorem readValue_digit {c : Char} (hdigit : c.isDigit = true) (cs : List Char) :
    readValue (fuel + 1) room (c :: cs) =
      (readNumber false (c :: cs)).map fun (n, rest) => (.number n, rest) := by
  have hne {d : Char} (hd : d.isDigit = false) {tail : List Char} : c :: cs ≠ d :: tail := by
    rintro ⟨⟩
    simp [hdigit] at hd
  rw [readValue]
  · cases readNumber false (c :: cs) <;> rfl
  all_goals exact fun _ => hne rfl

/-- What is read as a number is read alike whatever follows it. -/
theorem readValue_number_append (h : EndsNumber rest) {cs after : List Char} {n : Number}
    (hread : readValue 1 0 cs = some (.number n, after)) :
    readValue (fuel + 1) room (cs ++ rest) = some (.number n, after ++ rest) := by
  unfold readValue at hread
  split at hread
  all_goals simp only [Option.bind_eq_bind, Option.bind_eq_some_iff, Option.some.injEq, Prod.mk.injEq,
    Prod.exists, reduceCtorEq, false_and, and_false, exists_false] at hread
  next => simp at hread
  next => simp at hread
  next cs =>
    obtain ⟨m, digits, hnumber, heq, rfl⟩ := hread
    rw [List.cons_append, readValue_minus, readNumber_append h hnumber, ← heq]
    rfl
  next =>
    obtain ⟨m, digits, hnumber, heq, rfl⟩ := hread
    obtain ⟨c, tail, rfl, hdigit⟩ := exists_digit_of_readNumber hnumber
    rw [List.cons_append, readValue_digit hdigit, ← List.cons_append, readNumber_append h hnumber, ← heq]
    rfl

/-- An integer is read from its text. -/
theorem readValue_integer (h : EndsNumber rest) (z : WideInt) :
    readValue (fuel + 1) room ((Number.integer z).text.toList ++ rest) =
      some (.number (.integer z), rest) := by
  obtain ⟨z, hz⟩ := z
  have htail (negative : Bool) (n : Nat) (hn : (if negative then -(n : Int) else n) = z)
      (hsign : ¬(negative ∧ n = 0)) : readTail negative n 0 rest = some (.integer ⟨z, hz⟩, rest) := by
    have hinteger : readInteger? negative n 0 = some (.integer ⟨z, hz⟩) := by
      rw [readInteger?, if_pos ⟨rfl, hsign⟩, hn, Number.ofInt?, WideInt.ofInt?, dif_pos hz]
      rfl
    rw [readTail_plain fun c hc => (h c hc).2, hinteger]
  rw [Number.text, Int.toString_eq_repr, Int.repr_eq_if]
  dsimp only
  split
  next hpos =>
    obtain ⟨c, digits, hdigits⟩ := List.exists_cons_of_ne_nil (@Nat.toDigits_ne_nil z.toNat 10)
    have hdigit : c.isDigit = true :=
      Nat.isDigit_of_mem_toDigits (by decide) (by decide) (hdigits ▸ List.mem_cons_self)
    rw [Nat.toList_repr, hdigits, List.cons_append, readValue_digit hdigit, ← List.cons_append, ← hdigits,
      readNumber_toDigits h false (by omega), htail false z.toNat (Int.toNat_of_nonneg hpos) (by simp)]
    rfl
  next hneg =>
    have hvalue : -((-z).toNat : Int) = z := by omega
    rw [String.toList_append, Nat.toList_repr]
    change readValue (fuel + 1) room ('-' :: (Nat.toDigits 10 (-z).toNat ++ rest)) = _
    rw [readValue_minus, readNumber_toDigits h true (by omega), htail true (-z).toNat hvalue (by omega)]
    rfl

end Value

end Reconcile.Json
