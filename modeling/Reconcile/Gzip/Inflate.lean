/-!
# Inflate

Decompression of a raw deflate stream: stored blocks, and blocks of literals and back references
in fixed or transmitted Huffman codes. A code has to be complete unless it has at most one symbol.
A stream that ends early, refers behind its start or uses a symbol without meaning is refused.
-/

namespace Reconcile.Gzip

/-- A place in a stream of bits, each byte from its lowest bit on. -/
structure BitReader where
  bytes : ByteArray
  position : Nat

namespace BitReader

/-- The next bit. -/
def bit (r : BitReader) : Option (Nat × BitReader) :=
  if h : r.position / 8 < r.bytes.size then
    let b := r.bytes[r.position / 8].toNat
    some ((b >>> (r.position % 8)) % 2, { r with position := r.position + 1 })
  else none

/-- A number of `n` bits, the lowest first. -/
def bits : Nat → BitReader → Option (Nat × BitReader)
  | 0, r => some (0, r)
  | n + 1, r => do
    let (b, r) ← r.bit
    let (rest, r) ← bits n r
    some (b + 2 * rest, r)

/-- Goes to the start of the next byte. -/
def align (r : BitReader) : BitReader := { r with position := (r.position + 7) / 8 * 8 }

end BitReader

/-- A canonical Huffman code: how many code words of each length, and the symbols in the order of
their code words. -/
structure Huffman where
  counts : List Nat
  symbols : Array Nat

namespace Huffman

/-- How many code words have each of the lengths from 1 to 15. -/
def countLengths (lengths : List Nat) : List Nat :=
  (List.range 15).map fun i => lengths.count (i + 1)

/-- The share of the code space that is used, in units of the longest code words. -/
def used (counts : List Nat) : Nat := counts.foldl (fun total n => (total + n) * 2) 0

/-- The code with these lengths of code words, zero for no code word. -/
def ofLengths? (lengths : List Nat) : Option Huffman :=
  let counts := countLengths lengths
  if used counts ≠ 65536 ∧ counts.foldl (· + ·) 0 > 1 then none
  else
    let symbols := (List.range 15).flatMap fun i =>
      (lengths.zipIdx.filter fun entry => entry.1 == i + 1).map (·.2)
    some ⟨counts, symbols.toArray⟩

/-- Reads a symbol: `code` is the code word so far, `first` the first code word of its length and
`index` the number of shorter code words. -/
def readFrom (symbols : Array Nat) : List Nat → Nat → Nat → Nat → BitReader → Option (Nat × BitReader)
  | [], _, _, _, _ => none
  | n :: counts, code, first, index, r => do
    let (b, r) ← r.bit
    let code := code + b
    if code < first + n then
      match symbols[index + (code - first)]? with
      | some symbol => some (symbol, r)
      | none => none
    else readFrom symbols counts (code * 2) ((first + n) * 2) (index + n) r

/-- Reads a symbol. -/
def read (h : Huffman) (r : BitReader) : Option (Nat × BitReader) := readFrom h.symbols h.counts 0 0 0 r

end Huffman

/-- Least length and number of further bits of the symbols from 257 on. -/
def lengthCodes : List (Nat × Nat) :=
  [(3, 0), (4, 0), (5, 0), (6, 0), (7, 0), (8, 0), (9, 0), (10, 0), (11, 1), (13, 1), (15, 1), (17, 1),
    (19, 2), (23, 2), (27, 2), (31, 2), (35, 3), (43, 3), (51, 3), (59, 3), (67, 4), (83, 4), (99, 4),
    (115, 4), (131, 5), (163, 5), (195, 5), (227, 5), (258, 0)]

/-- Least distance and number of further bits of the distance symbols. -/
def distanceCodes : List (Nat × Nat) :=
  [(1, 0), (2, 0), (3, 0), (4, 0), (5, 1), (7, 1), (9, 2), (13, 2), (17, 3), (25, 3), (33, 4), (49, 4),
    (65, 5), (97, 5), (129, 6), (193, 6), (257, 7), (385, 7), (513, 8), (769, 8), (1025, 9), (1537, 9),
    (2049, 10), (3073, 10), (4097, 11), (6145, 11), (8193, 12), (12289, 12), (16385, 13), (24577, 13)]

/-- Repeats `length` bytes from `distance` bytes back. -/
def copyBack (distance : Nat) : Nat → ByteArray → Option ByteArray
  | 0, out => some out
  | length + 1, out =>
    if distance ≤ out.size then
      match out[out.size - distance]? with
      | some b => copyBack distance length (out.push b)
      | none => none
    else none

/-- Reads literals and back references up to the end of a block. -/
def readSymbols (literals distances : Huffman) : Nat → BitReader → ByteArray → Option (BitReader × ByteArray)
  | 0, _, _ => none
  | fuel + 1, r, out => do
    let (symbol, r) ← literals.read r
    if symbol < 256 then readSymbols literals distances fuel r (out.push (UInt8.ofNat symbol))
    else if symbol = 256 then some (r, out)
    else
      let (least, extra) ← lengthCodes[symbol - 257]?
      let (more, r) ← r.bits extra
      let length := least + more
      let (symbol, r) ← distances.read r
      let (least, extra) ← distanceCodes[symbol]?
      let (more, r) ← r.bits extra
      readSymbols literals distances fuel r (← copyBack (least + more) length out)

/-- The code for literals that needs no transmission. -/
def fixedLiterals : List Nat :=
  List.replicate 144 8 ++ List.replicate 112 9 ++ List.replicate 24 7 ++ List.replicate 8 8

/-- The code for distances that needs no transmission. -/
def fixedDistances : List Nat := List.replicate 32 5

/-- The order in which the lengths of the code for lengths are transmitted. -/
def lengthOrder : List Nat := [16, 17, 18, 0, 8, 7, 9, 6, 10, 5, 11, 4, 12, 3, 13, 2, 14, 1, 15]

/-- Reads `n` lengths of three bits. -/
def readLengthLengths : Nat → BitReader → Option (List Nat × BitReader)
  | 0, r => some ([], r)
  | n + 1, r => do
    let (l, r) ← r.bits 3
    let (rest, r) ← readLengthLengths n r
    some (l :: rest, r)

/-- Reads lengths of code words until there are `total`; `read` holds them in reverse. -/
def readLengths (code : Huffman) (total : Nat) : Nat → List Nat → BitReader → Option (List Nat × BitReader)
  | 0, _, _ => none
  | fuel + 1, read, r =>
    if read.length = total then some (read.reverse, r)
    else if read.length > total then none
    else do
      let (symbol, r) ← code.read r
      if symbol < 16 then readLengths code total fuel (symbol :: read) r
      else if symbol = 16 then do
        let (n, r) ← r.bits 2
        match read with
        | l :: _ => readLengths code total fuel (List.replicate (3 + n) l ++ read) r
        | [] => none
      else if symbol = 17 then do
        let (n, r) ← r.bits 3
        readLengths code total fuel (List.replicate (3 + n) 0 ++ read) r
      else do
        let (n, r) ← r.bits 7
        readLengths code total fuel (List.replicate (11 + n) 0 ++ read) r

/-- Reads a block with transmitted codes. -/
def readDynamic (fuel : Nat) (r : BitReader) (out : ByteArray) : Option (BitReader × ByteArray) := do
  let (literalCount, r) ← r.bits 5
  let (distanceCount, r) ← r.bits 5
  let (lengthCount, r) ← r.bits 4
  let (lengths, r) ← readLengthLengths (lengthCount + 4) r
  let placed := (lengthOrder.zip lengths)
  let code ← Huffman.ofLengths? ((List.range 19).map fun i => (placed.lookup i).getD 0)
  let literalCount := literalCount + 257
  let (lengths, r) ← readLengths code (literalCount + distanceCount + 1) 400 [] r
  let literals ← Huffman.ofLengths? (lengths.take literalCount)
  let distances ← Huffman.ofLengths? (lengths.drop literalCount)
  readSymbols literals distances fuel r out

/-- Reads a stored block: its length, twice, and its bytes. -/
def readStored (r : BitReader) (out : ByteArray) : Option (BitReader × ByteArray) := do
  let r := r.align
  let (length, r) ← r.bits 16
  let (check, r) ← r.bits 16
  let start := r.position / 8
  if length + check ≠ 65535 ∨ r.bytes.size < start + length then none
  else some ({ r with position := r.position + 8 * length }, out ++ r.bytes.extract start (start + length))

/-- Reads blocks up to the last one. -/
def readBlocks : Nat → BitReader → ByteArray → Option (BitReader × ByteArray)
  | 0, _, _ => none
  | fuel + 1, r, out => do
    let (last, r) ← r.bit
    let (kind, r) ← r.bits 2
    let bound := 8 * r.bytes.size + 1
    let (r, out) ←
      if kind = 0 then readStored r out
      else if kind = 1 then do
        readSymbols (← Huffman.ofLengths? fixedLiterals) (← Huffman.ofLengths? fixedDistances) bound r out
      else if kind = 2 then readDynamic bound r out
      else none
    if last = 1 then some (r, out) else readBlocks fuel r out

/-- The bytes of a deflate stream that starts at a byte, and the byte behind its end. -/
def inflate? (bytes : ByteArray) (start : Nat) : Option (ByteArray × Nat) := do
  let (r, out) ← readBlocks (8 * bytes.size + 1) ⟨bytes, 8 * start⟩ .empty
  some (out, r.align.position / 8)

end Reconcile.Gzip
