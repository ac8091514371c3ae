import Reconcile.Input.Expand
import Reconcile.Proofs.Text.Basic

/-!
# The limit on inputs

Of an input one byte more than the limit is read, so that a longer input is told from one that just
fits, even where the cut falls within a character. The one exception is the greatest limit, whose
successor is zero in 64 bits: then nothing is read, and the parser gets an empty text.
-/

namespace Reconcile.Input

variable {limit : UInt64}

/-- The greatest limit that there is. -/
def greatestLimit : UInt64 := 0xFFFFFFFFFFFFFFFF

/-- The number of bytes to read does not wrap around, but for the greatest limit. -/
theorem readSize_of_ne (h : limit ≠ greatestLimit) : readSize limit = limit.toNat + 1 := by
  have hlt : limit.toNat < 2 ^ 64 := UInt64.toNat_lt limit
  have hne : limit.toNat ≠ 2 ^ 64 - 1 := fun heq => h (UInt64.toNat.inj heq)
  rw [readSize, UInt64.toNat_add]
  exact Nat.mod_eq_of_lt (by simp; omega)

/-- One more than the greatest limit is nothing at all. -/
theorem readSize_greatestLimit : readSize greatestLimit = 0 := by decide

/-- A text that is no longer than the limit is read whole. -/
theorem readText_of_le (h : limit ≠ greatestLimit) {text : String}
    (hle : text.utf8ByteSize ≤ limit.toNat) : readText limit text.toUTF8 = .ok text := by
  have hsize : text.toUTF8.size ≤ limit.toNat + 1 := by
    rw [String.toUTF8_eq_toByteArray, String.size_toByteArray]
    omega
  have hwhole : text.toUTF8.extract 0 (readSize limit) = text.toUTF8 := by
    rw [readSize_of_ne h, ← Nat.max_eq_left hsize, ByteArray.extract_zero_max_size]
  rw [readText, hwhole, Text.fromUTF8?_toUTF8]
  exact if_neg (by omega)

/-- A text that is longer than the limit is refused, by its length or because the cut falls within a
character. -/
theorem readText_of_lt (h : limit ≠ greatestLimit) {text : String}
    (hlt : limit.toNat < text.utf8ByteSize) :
    readText limit text.toUTF8 = .error (Cause.inputTooLong limit.toNat) ∨
      readText limit text.toUTF8 = .error (Cause.layer .io) := by
  rw [readText]
  cases hread : String.fromUTF8? (text.toUTF8.extract 0 (readSize limit)) with
  | none => exact .inr rfl
  | some first =>
    have hsize : first.utf8ByteSize = limit.toNat + 1 := by
      rw [← String.size_toByteArray, ← String.toUTF8_eq_toByteArray, Text.toUTF8_of_fromUTF8? hread,
        ByteArray.size_extract, readSize_of_ne h, String.toUTF8_eq_toByteArray, String.size_toByteArray]
      omega
    exact .inl (if_pos (by omega))

/-- With the greatest limit nothing is read. -/
theorem readText_greatestLimit (content : ByteArray) : readText greatestLimit content = .ok "" := by
  have hnothing : content.extract 0 0 = "".toUTF8 := ByteArray.extract_same
  rw [readText, readSize_greatestLimit, hnothing, Text.fromUTF8?_toUTF8]
  rfl

variable {source : Source} {path text : String} {format : Format}

/-- The documents of a file are those of the text that is read of it. -/
theorem readDocuments_file {content : ByteArray} (hpath : path ≠ "-") (hformat : format? path = some format)
    (hfile : source.files.locate path = .file content) :
    readDocuments limit source path =
      (readText limit content).bind fun text => (parseDocuments format text).map (·, source) := by
  rw [readDocuments, if_neg hpath, hfile]
  cases hread : readText limit content with
  | error f => simp only [hread]; rfl
  | ok text =>
    simp only [hread, hformat]
    cases hparse : parseDocuments format text <;> simp only [bind, Except.bind, hparse] <;> rfl

/-- A file of a known format is handed whole to its parser when it is no longer than the limit, and is
refused when it is longer, with every limit but the greatest. With that one the number of bytes to read
wraps around to zero, and the parser gets the empty text whatever the file holds. -/
theorem readDocuments_within_limit (hpath : path ≠ "-") (hformat : format? path = some format)
    (hfile : source.files.locate path = .file text.toUTF8) :
    (limit ≠ greatestLimit →
      readSize limit = limit.toNat + 1 ∧
      (text.utf8ByteSize ≤ limit.toNat →
        readDocuments limit source path = (parseDocuments format text).map (·, source)) ∧
      (limit.toNat < text.utf8ByteSize →
        ∃ cause ∈ [Cause.inputTooLong limit.toNat, Cause.layer .io],
          readDocuments limit source path = .error (Failure.ofCause cause))) ∧
    (limit = greatestLimit →
      readSize limit = 0 ∧
      readDocuments limit source path = (parseDocuments format "").map (·, source)) := by
  rw [readDocuments_file hpath hformat hfile]
  refine ⟨fun h => ⟨readSize_of_ne h, fun hle => ?_, fun hlt => ?_⟩, ?_⟩
  · rw [readText_of_le h hle]
    rfl
  · rcases readText_of_lt h hlt with hread | hread
    · exact ⟨_, List.mem_cons_self, by rw [hread]; rfl⟩
    · exact ⟨_, List.mem_cons_of_mem _ List.mem_cons_self, by rw [hread]; rfl⟩
  · rintro rfl
    rw [readText_greatestLimit]
    exact ⟨readSize_greatestLimit, rfl⟩

/-- Of a text of one character and two bytes, a limit of two bytes lets all pass, a limit of none refuses
it although only half the character is read, and the greatest limit leaves nothing of it. -/
theorem readDocuments_within_limit_of_accented :
    let source : Source := ⟨⟨[], [(["a.yaml"], .file "é".toUTF8)]⟩, .empty⟩
    (readDocuments 2 source "a.yaml").toOption.map (·.1) = some [.string "é"] ∧
      (∃ cause ∈ [Cause.inputTooLong 0, Cause.layer .io],
        readDocuments 0 source "a.yaml" = .error (Failure.ofCause cause)) ∧
      (readDocuments greatestLimit source "a.yaml").toOption.map (·.1) = some [.null] := by
  intro source
  have hfile : source.files.locate "a.yaml" = .file "é".toUTF8 := rfl
  have hread (limit : UInt64) :=
    @readDocuments_within_limit limit source "a.yaml" "é" .yaml (by decide) (by decide) hfile
  have hfits := ((hread 2).1 (by decide)).2.1 (by decide)
  have hlonger := ((hread 0).1 (by decide)).2.2 (by decide)
  have hunread := ((hread greatestLimit).2 rfl).2
  rw [hfits, hunread]
  exact ⟨by decide +kernel, hlonger, by decide +kernel⟩

/-- With the greatest limit a file that is far from it is not read. -/
theorem readDocuments_unread_at_greatest_limit :
    ¬∀ (limit : UInt64) (source : Source) (path text : String) (format : Format), path ≠ "-" →
      format? path = some format → source.files.locate path = .file text.toUTF8 →
      text.utf8ByteSize ≤ limit.toNat →
      readDocuments limit source path = (parseDocuments format text).map (·, source) := by
  intro hclaim
  let text : String := "kind: Pod"
  let source : Source := ⟨⟨[], [(["a.yaml"], .file text.toUTF8)]⟩, .empty⟩
  have hformat : format? "a.yaml" = some .yaml := by decide
  have hfile : source.files.locate "a.yaml" = .file text.toUTF8 := rfl
  have hwhole := hclaim greatestLimit source "a.yaml" text .yaml (by decide) hformat hfile (by decide)
  rw [readDocuments_file (by decide) hformat hfile, readText_greatestLimit] at hwhole
  have hdocuments := congrArg (fun read => read.toOption.map (·.1)) hwhole
  exact absurd hdocuments (by decide +kernel)

end Reconcile.Input
