import Reconcile.Text.Blank

/-!
# Bytes and blanks of a text

A text is read back from its bytes, and the bytes are those of the text that is read from them.
Trimming takes off the blanks around a text and nothing else.
-/

namespace Reconcile.Text

/-- A text is read back from its bytes. -/
theorem fromUTF8?_toUTF8 (s : String) : String.fromUTF8? s.toUTF8 = some s := by
  rw [String.fromUTF8?, String.toUTF8_eq_toByteArray, dif_pos s.isValidUTF8]
  rfl

/-- Bytes that are read as a text are its own. -/
theorem toUTF8_of_fromUTF8? {bytes : ByteArray} {s : String} (h : String.fromUTF8? bytes = some s) :
    s.toUTF8 = bytes := by
  rw [String.fromUTF8?] at h
  split at h
  next => exact Option.some.inj h ▸ rfl
  next => simp at h

/-- All characters are blanks. -/
def Blank (cs : List Char) : Prop := ∀ c ∈ cs, isBlank c = true

/-- A text without characters is blank. -/
theorem blank_nil : Blank [] := List.forall_mem_nil _

/-- There is no blank at either end. -/
structure Tight (cs : List Char) : Prop where
  head : ∀ c ∈ cs.head?, isBlank c = false
  last : ∀ c ∈ cs.getLast?, isBlank c = false

/-- A text without blanks has none around it. -/
theorem tight_of_forall {cs : List Char} (h : ∀ c ∈ cs, isBlank c = false) : Tight cs where
  head c hc := h c (List.mem_of_mem_head? hc)
  last c hc := h c (List.mem_of_mem_getLast? hc)

/-- Nor has a single character that is not blank. -/
theorem tight_singleton {c : Char} (h : isBlank c = false) : Tight [c] :=
  tight_of_forall (List.forall_mem_singleton.mpr h)

/-- What stands between two parts without blanks at their ends may hold blanks. -/
theorem Tight.between {first last : List Char} (hfirst : Tight first) (hlast : Tight last)
    (hne : first ≠ []) (hne' : last ≠ []) (middle : List Char) : Tight (first ++ middle ++ last) where
  head := by
    obtain ⟨c, hc⟩ := Option.ne_none_iff_exists'.mp (mt List.head?_eq_none_iff.mp hne)
    rw [List.append_assoc, List.head?_append, hc, Option.some_or, ← hc]
    exact hfirst.head
  last := by
    obtain ⟨c, hc⟩ := Option.ne_none_iff_exists'.mp (mt List.getLast?_eq_none_iff.mp hne')
    rw [List.getLast?_append, hc, Option.some_or, ← hc]
    exact hlast.last

/-- Blanks in front are taken away. -/
theorem trimStart_of_blank_append {lead : List Char} (hlead : Blank lead) (cs : List Char) :
    trimStart (lead ++ cs) = trimStart cs := List.dropWhile_append_of_pos hlead

/-- Nothing is taken away in front of what is not blank. -/
theorem trimStart_of_head {cs : List Char} (h : ∀ c ∈ cs.head?, isBlank c = false) : trimStart cs = cs := by
  cases cs with
  | nil => rfl
  | cons c rest => exact List.dropWhile_cons_of_neg (by simp [h c rfl])

/-- The blanks around a text are taken off. -/
theorem trim_of_blank {lead cs trail : List Char} (hlead : Blank lead) (htrail : Blank trail)
    (h : Tight cs) : trim (lead ++ cs ++ trail) = cs := by
  rw [trim, List.append_assoc, trimStart_of_blank_append hlead]
  cases cs with
  | nil =>
    have hnone : trimStart (trail ++ []) = [] := trimStart_of_blank_append htrail []
    rw [List.append_nil] at hnone
    rw [List.nil_append, hnone]
    rfl
  | cons c rest =>
    have hreversed : Blank trail.reverse := fun d hd => htrail d (List.mem_reverse.mp hd)
    have hlast : ∀ d ∈ (c :: rest).reverse.head?, isBlank d = false := fun d hd =>
      h.last d (by rwa [List.head?_reverse] at hd)
    have hstart : trimStart (c :: rest ++ trail) = c :: rest ++ trail := trimStart_of_head h.head
    rw [hstart, List.reverse_append, trimStart_of_blank_append hreversed, trimStart_of_head hlast,
      List.reverse_reverse]

/-- A text is found behind blanks. -/
theorem trim_of_blank_before {lead cs : List Char} (hlead : Blank lead) (h : Tight cs) :
    trim (lead ++ cs) = cs := by
  have htrim := trim_of_blank hlead blank_nil h
  rwa [List.append_nil] at htrim

/-- It is found before blanks. -/
theorem trim_of_blank_after {cs trail : List Char} (htrail : Blank trail) (h : Tight cs) :
    trim (cs ++ trail) = cs :=
  trim_of_blank blank_nil htrail h

/-- Without blanks around it a text is left as it is. -/
theorem trim_of_tight {cs : List Char} (h : Tight cs) : trim cs = cs := trim_of_blank_before blank_nil h

end Reconcile.Text
