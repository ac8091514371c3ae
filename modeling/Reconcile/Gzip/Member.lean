import Reconcile.Gzip.Inflate
import Reconcile.Snapshot.Compression

/-!
# Gzip members

A gzip member is a header, a deflate stream, and the checksum and the length of what it holds.
`Gzip.pack` writes a member with stored blocks and no time of its own, so equal bytes give equal
members. `Gzip.unpack?` reads any member and checks all that can be checked; what follows the
member does not count.
-/

namespace Reconcile.Gzip

/-- One bit of the checksum's division. -/
def crcStep (c : UInt32) : UInt32 := if c % 2 = 1 then (c >>> 1) ^^^ 0xEDB88320 else c >>> 1

/-- Takes one byte into the checksum. -/
def crcByte (c : UInt32) (b : UInt8) : UInt32 :=
  let c := c ^^^ b.toUInt32
  crcStep (crcStep (crcStep (crcStep (crcStep (crcStep (crcStep (crcStep c)))))))

/-- The checksum of bytes. -/
def crc32 (bytes : List UInt8) : UInt32 := ~~~(bytes.foldl crcByte 0xFFFFFFFF)

/-- A number in `n` bytes, the lowest first. -/
def littleEndian : Nat → Nat → List UInt8
  | 0, _ => []
  | n + 1, value => UInt8.ofNat (value % 256) :: littleEndian n (value / 256)

/-- The number in bytes, the lowest first. -/
def ofLittleEndian : List UInt8 → Nat
  | [] => 0
  | b :: rest => b.toNat + 256 * ofLittleEndian rest

/-- The most bytes of a stored block. -/
def blockSize : Nat := 65535

/-- Stored blocks, `n` of them before the last one. -/
def storedBlocks : Nat → List UInt8 → List UInt8
  | 0, bytes => storedBlock true bytes
  | n + 1, bytes => storedBlock false (bytes.take blockSize) ++ storedBlocks n (bytes.drop blockSize)
where
  /-- One stored block. -/
  storedBlock (last : Bool) (bytes : List UInt8) : List UInt8 :=
    (if last then 1 else 0) :: littleEndian 2 bytes.length ++ littleEndian 2 (65535 - bytes.length) ++ bytes

/-- The header of the members written here: no flags, no time, no system. -/
def plainHeader : List UInt8 := [0x1f, 0x8b, 8, 0, 0, 0, 0, 0, 0, 255]

/-- Writes a member. -/
def pack (bytes : List UInt8) : List UInt8 :=
  plainHeader ++ storedBlocks ((bytes.length - 1) / blockSize) bytes
    ++ littleEndian 4 (crc32 bytes).toNat ++ littleEndian 4 bytes.length

/-- Whether a flag of a header is set. -/
def hasFlag (flags : UInt8) (flag : Nat) : Bool := flags.toNat / flag % 2 == 1

/-- What follows the first zero byte, which comes within the first 65536. -/
def skipText (bytes : List UInt8) : Option (List UInt8) :=
  match bytes.dropWhile (· ≠ 0) with
  | _ :: rest => if bytes.length - rest.length ≤ 65536 then some rest else none
  | [] => none

/-- What follows the header of a member. -/
def skipHeader (bytes : List UInt8) : Option (List UInt8) :=
  match bytes with
  | 0x1f :: 0x8b :: 8 :: flags :: rest => do
    if flags.toNat ≥ 32 ∨ rest.length < 6 then none
    else
      let rest := rest.drop 6
      let rest ←
        if hasFlag flags 4 then
          let size := ofLittleEndian (rest.take 2)
          if rest.length < 2 + size then none else some (rest.drop (2 + size))
        else some rest
      let rest ← if hasFlag flags 8 then skipText rest else some rest
      let rest ← if hasFlag flags 16 then skipText rest else some rest
      if hasFlag flags 2 then
        let header := bytes.take (bytes.length - rest.length)
        if rest.length < 2 ∨ ofLittleEndian (rest.take 2) ≠ (crc32 header).toNat % 65536 then none
        else some (rest.drop 2)
      else some rest
  | _ => none

/-- Reads the first member of the bytes. -/
def unpack? (bytes : List UInt8) : Option ByteArray := do
  let body ← skipHeader bytes
  let stream := ByteArray.mk body.toArray
  let (out, stop) ← inflate? stream 0
  let trailer := (body.drop stop).take 8
  if trailer.length < 8 then none
  else if ofLittleEndian (trailer.take 4) ≠ (crc32 out.data.toList).toNat then none
  else if ofLittleEndian (trailer.drop 4) ≠ out.size % 0x100000000 then none
  else some out

/-- Bytes are compressed to one member of stored blocks. -/
instance : Compression where
  pack bytes := ⟨(pack bytes.data.toList).toArray⟩
  unpack? bytes := unpack? bytes.data.toList

end Reconcile.Gzip
