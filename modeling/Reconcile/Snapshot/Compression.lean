/-!
# Compression

Snapshots are compressed. Of what compresses them no more is asked than that it is a function of the
bytes; that nothing is lost is said where it is needed.
-/

namespace Reconcile

/-- A way to compress bytes. -/
class Compression where
  /-- Compresses bytes. -/
  pack : ByteArray → ByteArray
  /-- What was compressed, if the bytes can be read. -/
  unpack? : ByteArray → Option ByteArray

/-- Nothing is lost when bytes are compressed. -/
def Compression.Lossless [Compression] : Prop := ∀ bytes, unpack? (pack bytes) = some bytes

end Reconcile
