import Reconcile.Base64
import Reconcile.Text.Blank

/-!
# Base64 round trip

What is written in base64 is read back, whatever the number of bytes. The characters of such a text are
no blanks and no braces, so trimming does not touch it, and its first character tells it from JSON.
-/

namespace Reconcile.Base64

/-- A character of the alphabet has the value that it stands for. -/
theorem value?_digit : ∀ n < 64, value? (digit n) = some n := by decide +kernel

/-- No digit is the sign that fills up. -/
theorem digit_ne_pad : ∀ n < 64, digit n ≠ '=' := by decide +kernel

/-- Four characters that stand for values are read as three bytes, whatever follows. -/
theorem decode?_group {a b c d : Nat} (ha : a < 64) (hb : b < 64) (hc : c < 64) (hd : d < 64)
    (rest : List Char) :
    decode? (digit a :: digit b :: digit c :: digit d :: rest) =
      (decode? rest).map fun bytes =>
        let n := a * 262144 + b * 4096 + c * 64 + d
        UInt8.ofNat (n / 65536) :: UInt8.ofNat (n / 256 % 256) :: UInt8.ofNat (n % 256) :: bytes := by
  have hpad := digit_ne_pad d hd
  rw [decode?]
  · rw [value?_digit a ha, value?_digit b hb, value?_digit c hc, value?_digit d hd]
    cases decode? rest <;> rfl
  · exact fun _ h _ => hpad h
  · exact fun h _ => hpad h

/-- Three characters and one of padding are read as two bytes. -/
theorem decode?_pair {a b c : Nat} (ha : a < 64) (hb : b < 64) (hc : c < 64) (hzero : c % 4 = 0) :
    decode? [digit a, digit b, digit c, '='] =
      let n := a * 4096 + b * 64 + c
      some [UInt8.ofNat (n / 1024), UInt8.ofNat (n / 4 % 256)] := by
  have hpad := digit_ne_pad c hc
  rw [decode?]
  · rw [value?_digit a ha, value?_digit b hb, value?_digit c hc]
    exact if_pos (by omega)
  · exact hpad

/-- Two characters and two of padding are read as one byte. -/
theorem decode?_single {a b : Nat} (ha : a < 64) (hb : b < 64) (hzero : b % 16 = 0) :
    decode? [digit a, digit b, '=', '='] = some [UInt8.ofNat ((a * 64 + b) / 16)] := by
  rw [decode?, value?_digit a ha, value?_digit b hb]
  exact if_pos (by omega)

/-- Two bytes are put together from their three digits. -/
theorem pair_eq (n : Nat) : n / 4096 * 4096 + n / 64 % 64 * 64 + n % 64 = n := by omega

/-- Three bytes are put together from their four digits. -/
theorem group_eq (n : Nat) :
    n / 262144 * 262144 + n / 4096 % 64 * 4096 + n / 64 % 64 * 64 + n % 64 = n := by omega

/-- A byte is known by its number. -/
theorem ofNat_eq {b : UInt8} {n : Nat} (h : n = b.toNat) : UInt8.ofNat n = b := by
  rw [h, UInt8.ofNat_toNat]

/-- What is written is read back. -/
theorem decode?_encode (bytes : List UInt8) : decode? (encode bytes) = some bytes := by
  induction bytes using encode.induct with
  | case1 a b c rest ih =>
    have ha := a.toNat_lt
    have hb := b.toNat_lt
    have hc := c.toNat_lt
    rw [encode]
    generalize hn : a.toNat * 65536 + b.toNat * 256 + c.toNat = n
    rw [decode?_group (by omega) (by omega) (by omega) (by omega), ih, Option.map_some, group_eq]
    dsimp only
    rw [ofNat_eq (by omega : n / 65536 = a.toNat), ofNat_eq (by omega : n / 256 % 256 = b.toNat),
      ofNat_eq (by omega : n % 256 = c.toNat)]
  | case2 a b =>
    have ha := a.toNat_lt
    have hb := b.toNat_lt
    rw [encode]
    generalize hn : a.toNat * 1024 + b.toNat * 4 = n
    rw [decode?_pair (by omega) (by omega) (by omega) (by omega), pair_eq]
    dsimp only
    rw [ofNat_eq (by omega : n / 1024 = a.toNat), ofNat_eq (by omega : n / 4 % 256 = b.toNat)]
  | case3 a =>
    have ha := a.toNat_lt
    rw [encode]
    generalize hn : a.toNat * 16 = n
    rw [decode?_single (by omega) (by omega) (by omega), Nat.div_add_mod',
      ofNat_eq (by omega : n / 16 = a.toNat)]
  | case4 => rfl

/-- The characters in texts: those that stand for values, and the padding. -/
def characters : List Char := '=' :: alphabet

/-- Every digit is one of the characters. -/
theorem digit_mem_characters (n : Nat) : digit n ∈ characters := by
  rw [digit, List.getD_eq_getElem?_getD]
  cases h : alphabet[n]? with
  | none => exact List.mem_cons_self
  | some c => exact List.mem_cons_of_mem _ (List.mem_of_getElem? h)

/-- All that is written is made of the characters. -/
theorem mem_characters {bytes : List UInt8} : ∀ c ∈ encode bytes, c ∈ characters := by
  have hpad : '=' ∈ characters := List.mem_cons_self
  induction bytes using encode.induct with
  | case1 a b c rest ih => simpa [encode, digit_mem_characters] using ih
  | case2 a b => simp [encode, digit_mem_characters, hpad]
  | case3 a => simp [encode, digit_mem_characters, hpad]
  | case4 => simp [encode]

/-- No character is blank. -/
theorem isBlank_of_mem_characters : ∀ c ∈ characters, Text.isBlank c = false := by
  have hall : characters.all (fun c => !Text.isBlank c) = true := by decide
  simpa using hall

/-- None is a bracket that opens an object. -/
theorem not_brace_of_mem_characters : ∀ c ∈ characters, c ≠ '{' := by
  have hbrace : '{' ∉ characters := by decide
  exact fun c hc h => hbrace (h ▸ hc)

end Reconcile.Base64
