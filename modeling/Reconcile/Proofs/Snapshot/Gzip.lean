import Mathlib.Algebra.Group.Nat.Defs
import Reconcile.Gzip.Member

/-!
# Gzip round trip

What is packed is unpacked. A packed member has stored blocks only, and these start and end between
bytes, so the statements are about readers that stand between two parts of their bytes: a number in
whole bytes is read by its bits, from it a stored block, then all blocks, then the member.
-/

namespace Reconcile.Gzip

/-- The bytes of a list. -/
abbrev ofBytes (bytes : List UInt8) : ByteArray := ⟨bytes.toArray⟩

/-- There are as many bytes as in the list. -/
theorem size_ofBytes (bytes : List UInt8) : (ofBytes bytes).size = bytes.length := List.size_toArray

/-- Of a number, what fits its bytes is found again in them. -/
theorem ofLittleEndian_littleEndian (n value : Nat) :
    ofLittleEndian (littleEndian n value) = value % 256 ^ n := by
  induction n generalizing value with
  | zero => rw [Nat.pow_zero, Nat.mod_one, littleEndian, ofLittleEndian]
  | succ n ih =>
    have hlow : (UInt8.ofNat (value % 256)).toNat = value % 256 := by simp
    rw [littleEndian, ofLittleEndian, ih, hlow, Nat.pow_succ', Nat.mod_mul]

/-- A number is written in as many bytes as are asked for. -/
theorem length_littleEndian (n value : Nat) : (littleEndian n value).length = n := by
  induction n generalizing value with
  | zero => rfl
  | succ n ih => rw [littleEndian, List.length_cons, ih]

namespace BitReader

/-- A reader between two parts of its bytes. -/
def between (before after : List UInt8) : BitReader := ⟨ofBytes (before ++ after), 8 * before.length⟩

/-- A reader some bits into the byte between two parts. -/
def within (before : List UInt8) (b : UInt8) (after : List UInt8) (i : Nat) : BitReader :=
  ⟨ofBytes (before ++ b :: after), 8 * before.length + i⟩

variable {before after : List UInt8} {b : UInt8}

/-- Before its first bit a reader stands in front of the byte. -/
theorem within_zero : within before b after 0 = between before (b :: after) := rfl

/-- Behind its last bit it stands behind the byte. -/
theorem within_eight : within before b after 8 = between (before ++ [b]) after := by
  simp [within, between, Nat.mul_add]

/-- A reader between two bytes needs not be moved to the next one. -/
theorem align_between : (between before after).align = between before after := by
  have : (8 * before.length + 7) / 8 * 8 = 8 * before.length := by omega
  rw [align, between, this]

/-- Anywhere in a byte but at its start, the next byte starts behind it. -/
theorem align_within {i : Nat} (hpos : 0 < i) (hi : i ≤ 8) :
    (within before b after i).align = between (before ++ [b]) after := by
  have : (8 * before.length + i + 7) / 8 * 8 = 8 * before.length + 8 := by omega
  rw [← within_eight, align, within, this]
  rfl

/-- The bits of a byte stand from the lowest on. -/
theorem bit_within {i : Nat} (hi : i < 8) :
    (within before b after i).bit = some (b.toNat / 2 ^ i % 2, within before b after (i + 1)) := by
  have hdiv : (8 * before.length + i) / 8 = before.length := by omega
  have hmod : (8 * before.length + i) % 8 = i := by omega
  have hsize : (8 * before.length + i) / 8 < (ofBytes (before ++ b :: after)).size := by
    simp [hdiv, ByteArray.size]
  have hbyte : (ofBytes (before ++ b :: after))[(8 * before.length + i) / 8] = b := by
    simp [hdiv, ByteArray.getElem_eq_getElem_data]
  rw [bit, within, dif_pos hsize]
  dsimp only
  rw [hbyte, hmod, Nat.shiftRight_eq_div_pow]
  rfl

/-- Bits of one byte are a part of its value. -/
theorem bits_within (n : Nat) {i : Nat} (h : i + n ≤ 8) :
    bits n (within before b after i) = some (b.toNat / 2 ^ i % 2 ^ n, within before b after (i + n)) := by
  induction n generalizing i with
  | zero => rw [bits, Nat.pow_zero, Nat.mod_one, Nat.add_zero]
  | succ n ih =>
    have hvalue : b.toNat / 2 ^ i % 2 ^ (n + 1) =
        b.toNat / 2 ^ i % 2 + 2 * (b.toNat / 2 ^ (i + 1) % 2 ^ n) := by
      rw [Nat.pow_succ' , Nat.mod_mul, Nat.div_div_eq_div_mul, ← Nat.pow_succ]
    rw [bits, bit_within (by omega), Option.bind_eq_bind, Option.bind_some]
    dsimp only
    rw [ih (by omega), Option.bind_some, hvalue, Nat.add_assoc i, Nat.add_comm 1 n]

/-- Eight bits in front of a byte are that byte. -/
theorem bits_byte : bits 8 (between before (b :: after)) = some (b.toNat, between (before ++ [b]) after) := by
  have hbyte : b.toNat / 2 ^ 0 % 2 ^ 8 = b.toNat := by
    have := b.toNat_lt
    omega
  rw [← within_zero, bits_within 8 (by decide), hbyte, Nat.zero_add, within_eight]

/-- Bits are read low part first. -/
theorem bits_add (m n : Nat) (r : BitReader) :
    bits (m + n) r =
      (bits m r).bind fun (low, r) => (bits n r).map fun (high, r) => (low + 2 ^ m * high, r) := by
  induction m generalizing r with
  | zero => simp [bits]
  | succ m ih =>
    rw [Nat.add_right_comm, bits, bits]
    cases r.bit with
    | none => rfl
    | some read =>
      obtain ⟨b, r⟩ := read
      simp only [Option.bind_eq_bind, Option.bind_some, ih]
      cases bits m r with
      | none => rfl
      | some read =>
        obtain ⟨low, r⟩ := read
        simp only [Option.bind_some]
        cases bits n r with
        | none => rfl
        | some read => simp [Nat.pow_succ, Nat.mul_add, Nat.mul_comm, Nat.mul_left_comm, Nat.add_assoc]

/-- A number in whole bytes is read by its bits. -/
theorem bits_littleEndian (n : Nat) {value : Nat} (h : value < 256 ^ n) :
    bits (8 * n) (between before (littleEndian n value ++ after)) =
      some (value, between (before ++ littleEndian n value) after) := by
  induction n generalizing value before with
  | zero =>
    obtain rfl : value = 0 := by simpa using h
    simp [bits, littleEndian]
  | succ n ih =>
    have hlow : (UInt8.ofNat (value % 256)).toNat = value % 256 := by simp
    have hhigh : value / 256 < 256 ^ n := by
      rw [Nat.pow_succ] at h
      exact Nat.div_lt_of_lt_mul (by omega)
    rw [littleEndian, Nat.mul_succ, Nat.add_comm, bits_add, List.cons_append, bits_byte, Option.bind_some]
    dsimp only
    rw [ih hhigh, Option.map_some, hlow, List.append_assoc, List.singleton_append]
    exact congrArg some (Prod.ext (Nat.mod_add_div value 256) rfl)

/-- A reader between two parts stands at the byte behind the first. -/
theorem position_between : (between before after).position / 8 = before.length :=
  Nat.mul_div_cancel_left before.length (by decide)

/-- The bytes behind a reader are taken out. -/
theorem extract_between (bytes : List UInt8) :
    (between before (bytes ++ after)).bytes.extract before.length (before.length + bytes.length) =
      ofBytes bytes := by
  apply ByteArray.ext
  apply Array.ext'
  simp [between, ByteArray.data_extract]

/-- A reader goes over bytes. -/
theorem advance_between (bytes : List UInt8) :
    { between before (bytes ++ after) with
      position := (between before (bytes ++ after)).position + 8 * bytes.length } =
      between (before ++ bytes) after := by
  simp [between, Nat.mul_add]

end BitReader

open BitReader (between within)

variable {before after bytes : List UInt8} {out : ByteArray}

/-- What follows the first byte of a stored block: the length, twice, and the bytes. -/
def payload (bytes : List UInt8) : List UInt8 :=
  littleEndian 2 bytes.length ++ littleEndian 2 (65535 - bytes.length) ++ bytes

/-- A payload is read whole by any reader that stands in front of it once it is at a byte. -/
theorem readStored_payload {r : BitReader} (hr : r.align = between before (payload bytes ++ after))
    (hlength : bytes.length ≤ blockSize) :
    readStored r out = some (between (before ++ payload bytes) after, out ++ ofBytes bytes) := by
  rw [blockSize] at hlength
  have hfirst := @BitReader.bits_littleEndian before
    (littleEndian 2 (65535 - bytes.length) ++ bytes ++ after) 2 bytes.length (by omega)
  have hsecond := @BitReader.bits_littleEndian (before ++ littleEndian 2 bytes.length) (bytes ++ after) 2
    (65535 - bytes.length) (by omega)
  rw [readStored, hr]
  simp only [payload, List.append_assoc] at hfirst hsecond ⊢
  rw [hfirst]
  simp only [Option.bind_eq_bind, Option.bind_some]
  rw [hsecond]
  simp only [Option.bind_some]
  have hpayload : before ++ (littleEndian 2 bytes.length ++ (littleEndian 2 (65535 - bytes.length) ++ bytes)) =
      before ++ (littleEndian 2 bytes.length ++ littleEndian 2 (65535 - bytes.length)) ++ bytes := by
    simp only [List.append_assoc]
  rw [hpayload]
  generalize before ++ (littleEndian 2 bytes.length ++ littleEndian 2 (65535 - bytes.length)) = head
  have hsize : (between head (bytes ++ after)).bytes.size = head.length + (bytes.length + after.length) := by
    simp [between, ByteArray.size]
  rw [BitReader.position_between, BitReader.extract_between, BitReader.advance_between, hsize]
  exact if_neg (by omega)

/-- A stored block is a first byte, which says whether it is the last one, and its payload. -/
theorem storedBlock_eq (last : Bool) (bytes : List UInt8) :
    storedBlocks.storedBlock last bytes = (if last then 1 else 0) :: payload bytes := by
  rw [storedBlocks.storedBlock, payload, List.cons_append, List.cons_append]

/-- Reading blocks takes a stored block, and stops behind the last one. -/
theorem readBlocks_storedBlock (fuel : Nat) (last : Bool) (hlength : bytes.length ≤ blockSize) :
    readBlocks (fuel + 1) (between before (storedBlocks.storedBlock last bytes ++ after)) out =
      let r := between (before ++ storedBlocks.storedBlock last bytes) after
      let out := out ++ ofBytes bytes
      if last then some (r, out) else readBlocks fuel r out := by
  rw [storedBlock_eq]
  generalize hfirst : (if last then 1 else 0 : UInt8) = b
  have hbit : (between before (b :: (payload bytes ++ after))).bit =
      some (if last then 1 else 0, within before b (payload bytes ++ after) 1) := by
    rw [← BitReader.within_zero, BitReader.bit_within (by decide)]
    cases last <;> subst hfirst <;> rfl
  have hkind : (within before b (payload bytes ++ after) 1).bits 2 =
      some (0, within before b (payload bytes ++ after) 3) := by
    rw [BitReader.bits_within 2 (by decide)]
    cases last <;> subst hfirst <;> rfl
  have halign : (within before b (payload bytes ++ after) 3).align =
      between (before ++ [b]) (payload bytes ++ after) := BitReader.align_within (by decide) (by decide)
  rw [List.cons_append, readBlocks, hbit]
  simp only [Option.bind_eq_bind, Option.bind_some]
  rw [hkind]
  simp only [Option.bind_some, if_pos]
  rw [readStored_payload halign hlength, List.append_assoc, List.singleton_append]
  cases last <;> simp

/-- All stored blocks are read, and what they hold is put together. -/
theorem readBlocks_storedBlocks {fuel : Nat} (n : Nat) (hfuel : n < fuel)
    (hlength : bytes.length ≤ (n + 1) * blockSize) :
    readBlocks fuel (between before (storedBlocks n bytes ++ after)) out =
      some (between (before ++ storedBlocks n bytes) after, out ++ ofBytes bytes) := by
  induction n generalizing fuel bytes before out with
  | zero =>
    obtain ⟨fuel, rfl⟩ := Nat.exists_eq_succ_of_ne_zero (Nat.ne_zero_of_lt hfuel)
    rw [Nat.zero_add, Nat.one_mul] at hlength
    rw [storedBlocks, readBlocks_storedBlock fuel true hlength]
    rfl
  | succ n ih =>
    obtain ⟨fuel, rfl⟩ := Nat.exists_eq_succ_of_ne_zero (Nat.ne_zero_of_lt hfuel)
    have htake : (bytes.take blockSize).length ≤ blockSize := List.length_take_le _ _
    have hdrop : (bytes.drop blockSize).length ≤ (n + 1) * blockSize := by
      rw [Nat.succ_mul] at hlength
      rw [List.length_drop]
      omega
    have hwhole : out ++ ofBytes (bytes.take blockSize) ++ ofBytes (bytes.drop blockSize) =
        out ++ ofBytes bytes := by
      rw [ByteArray.append_assoc]
      refine congrArg (out ++ ·) (ByteArray.ext (Array.ext' ?_))
      simp [ByteArray.data_append]
    rw [storedBlocks, List.append_assoc, readBlocks_storedBlock fuel false htake]
    dsimp only
    rw [if_neg (by decide), ih (Nat.lt_of_succ_lt_succ hfuel) hdrop, hwhole, List.append_assoc]

/-- There are no more blocks than bytes to hold them. -/
theorem lt_length_storedBlocks (n : Nat) (bytes : List UInt8) : n < (storedBlocks n bytes).length := by
  induction n generalizing bytes with
  | zero => simp [storedBlocks, storedBlock_eq]
  | succ n ih =>
    have hrest := ih (bytes.drop blockSize)
    rw [storedBlocks, storedBlock_eq, List.length_append, List.length_cons]
    omega

/-- The blocks of a member hold the bytes that were put into it, and end where its trailer starts. -/
theorem inflate?_storedBlocks (bytes after : List UInt8) :
    let blocks := storedBlocks ((bytes.length - 1) / blockSize) bytes
    inflate? (ofBytes (blocks ++ after)) 0 = some (ofBytes bytes, blocks.length) := by
  intro blocks
  have hlength : bytes.length ≤ ((bytes.length - 1) / blockSize + 1) * blockSize := by
    rw [blockSize]
    omega
  have hfuel : (bytes.length - 1) / blockSize < 8 * (ofBytes (blocks ++ after)).size + 1 := by
    have hblocks : (bytes.length - 1) / blockSize < blocks.length := lt_length_storedBlocks _ bytes
    rw [size_ofBytes, List.length_append]
    omega
  have hread : readBlocks _ (between [] (blocks ++ after)) .empty = _ :=
    readBlocks_storedBlocks _ hfuel hlength
  rw [inflate?]
  change (readBlocks _ (between [] (blocks ++ after)) .empty).bind _ = _
  rw [hread, Option.bind_some]
  dsimp only
  rw [BitReader.align_between, BitReader.position_between, ByteArray.empty_append]
  rfl

/-- A header without flags is gone over. -/
theorem skipHeader_plainHeader (body : List UInt8) : skipHeader (plainHeader ++ body) = some body := by
  rw [plainHeader]
  simp [skipHeader, hasFlag]

/-- What is packed is unpacked. -/
theorem unpack?_pack (bytes : List UInt8) : unpack? (pack bytes) = some (ofBytes bytes) := by
  have hsum : ofLittleEndian (littleEndian 4 (crc32 bytes).toNat) = (crc32 bytes).toNat := by
    rw [ofLittleEndian_littleEndian]
    exact Nat.mod_eq_of_lt (crc32 bytes).toNat_lt
  have hsize : ofLittleEndian (littleEndian 4 bytes.length) = (ofBytes bytes).size % 0x100000000 :=
    (ofLittleEndian_littleEndian 4 bytes.length).trans (congrArg (· % 256 ^ 4) (size_ofBytes bytes).symm)
  have htrailer : (littleEndian 4 (crc32 bytes).toNat ++ littleEndian 4 bytes.length).length = 8 := by
    simp [length_littleEndian]
  rw [unpack?, pack, List.append_assoc, List.append_assoc, skipHeader_plainHeader]
  simp only [Option.bind_eq_bind, Option.bind_some]
  rw [inflate?_storedBlocks]
  simp only [Option.bind_some]
  rw [List.drop_left, List.take_of_length_le (Nat.le_of_eq htrailer), htrailer, if_neg (Nat.lt_irrefl 8),
    List.take_left' (length_littleEndian 4 _), List.drop_left' (length_littleEndian 4 _),
    if_neg (not_not_intro hsum), if_neg (not_not_intro hsize)]

/-- Nothing is lost when bytes are packed. -/
theorem lossless : Compression.Lossless := fun bytes => unpack?_pack bytes.data.toList

end Reconcile.Gzip
