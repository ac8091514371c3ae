import Reconcile.AnnotationKey
import Reconcile.Base64
import Reconcile.Json.Parser
import Reconcile.Json.Printer
import Reconcile.Resource
import Reconcile.Snapshot.Compression
import Reconcile.Text.Blank

/-!
# Snapshots

An object carries a snapshot of itself as it was last submitted: its JSON text, compressed and
written in base64, in an annotation. The snapshot never holds an earlier snapshot, so stamping an
object twice is the same as stamping it once. Plain JSON text is read as well.
-/

namespace Reconcile.Snapshot

variable [Compression]

/-- Writes a value as a snapshot. -/
def encode (v : Json) : String :=
  String.ofList (Base64.encode (Compression.pack v.compact.toUTF8).data.toList)

/-- Reads a snapshot. -/
def decode (text : String) : Except Failure Json :=
  let cs := Text.trim text.toList
  let failed (layer : Layer) (context : String) : Failure := ⟨[context], .layer layer⟩
  if cs.head? = some '{' then
    match Json.parse? (String.ofList cs) with
    | some v => .ok v
    | none => .error (failed .json "parsing last-applied JSON")
  else
    match Base64.decode? cs with
    | none => .error (failed .base64 "decoding last-applied base64")
    | some bytes =>
      match Compression.unpack? ⟨bytes.toArray⟩ with
      | none => .error (failed .io "decompressing last-applied snapshot")
      | some raw =>
        match (String.fromUTF8? raw).bind Json.parse? with
        | some v => .ok v
        | none => .error (failed .json "parsing last-applied snapshot")

/-- The snapshot of an object, without any it carries. -/
def ofResource (r : Resource) : String := encode (r.removeAnnotation AnnotationKey.lastApplied).toJson

/-- The object with a fresh snapshot of itself. -/
def stamp (r : Resource) : Resource := r.setAnnotation AnnotationKey.lastApplied (ofResource r)

/-- The text of the snapshot on a live object; the compressed one comes before the plain one. -/
def text? (live : Resource) : Option String :=
  (live.annotation? AnnotationKey.lastApplied).or (live.annotation? AnnotationKey.plainLastApplied)

/-- The snapshot on a live object, if there is one. -/
def lastApplied (live : Resource) : Except Failure (Option Json) :=
  match text? live with
  | some text => (decode text).map some
  | none => .ok none

end Reconcile.Snapshot
