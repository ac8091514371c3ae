import Reconcile.Cluster.Selector
import Reconcile.Proofs.Resource.Metadata
import Reconcile.Proofs.Text.Basic

/-!
# What selectors mean

A selector is written as terms between commas, with blanks around the terms and around the operators in
them. Each term has a meaning: a label has a value, or has not, or is there, or is not. A selector is read
term by term, and every term is read as it is meant but for one kind: a value behind two equals signs is
read with the second of them as its first character.
-/

namespace Reconcile.Selector

/-- A character of a key or a value: no blank, and none that ends a term or a part of one. -/
def isPlain (c : Char) : Bool := !Text.isBlank c && c != ',' && c != '=' && c != '!'

/-- Letters and digits are of one byte. -/
theorem toNat_lt_of_isAlphanum {c : Char} (h : c.isAlphanum = true) : c.toNat < 128 := by
  have hbelow {last : UInt32} (hle : c.val ≤ last) (hlast : last.toNat < 128) : c.toNat < 128 :=
    Nat.lt_of_le_of_lt (UInt32.le_iff_toNat_le.mp hle) hlast
  rcases Bool.or_eq_true_iff.mp h with halpha | hdigit
  · rcases Bool.or_eq_true_iff.mp halpha with hupper | hlower
    · exact hbelow (of_decide_eq_true hupper).2 (by decide)
    · exact hbelow (of_decide_eq_true (Bool.and_eq_true_iff.mp hlower).2) (by decide)
  · exact hbelow (of_decide_eq_true (Bool.and_eq_true_iff.mp hdigit).2) (by decide)

/-- Whatever the keys and values of labels are made up of is plain, so what is said of words below is said of
every label. -/
theorem isPlain_of_isAlphanum {c : Char} (h : c.isAlphanum = true ∨ c ∈ ['-', '_', '.', '/']) :
    isPlain c = true := by
  have hascii : ∀ n < 128, (Char.ofNat n).isAlphanum = true ∨ Char.ofNat n ∈ ['-', '_', '.', '/'] →
      isPlain (Char.ofNat n) = true := by decide
  have hlt : c.toNat < 128 := by
    rcases h with h | h
    · exact toNat_lt_of_isAlphanum h
    · simp only [List.mem_cons, List.not_mem_nil, or_false] at h
      rcases h with rfl | rfl | rfl | rfl <;> decide
  have hplain := hascii c.toNat hlt
  rw [Char.ofNat_toNat] at hplain
  exact hplain h

/-- A key, or a value that is not empty. -/
structure Word where
  chars : List Char
  nonempty : chars ≠ []
  plain : ∀ c ∈ chars, isPlain c = true

/-- The text of a word. -/
def Word.text (w : Word) : String := String.ofList w.chars

/-- Blanks between two parts of a selector. -/
abbrev Gap := { cs : List Char // Text.Blank cs }

/-- What a label is compared by. -/
inductive Operator where
  | equal | doubleEqual | different
deriving DecidableEq

/-- How an operator is written. -/
def Operator.chars : Operator → List Char
  | .equal => ['=']
  | .doubleEqual => ['=', '=']
  | .different => ['!', '=']

/-- A term as it is written. Behind an operator there may be nothing, which stands for the empty value. -/
inductive TermForm where
  | compared (key : Word) (gap : Gap) (operator : Operator) (value : Option (Gap × Word))
  | present (key : Word)
  | absent (key : Word)

namespace TermForm

/-- What stands behind an operator. -/
def valueChars : Option (Gap × Word) → List Char
  | some (gap, value) => gap.val ++ value.chars
  | none => []

/-- The value behind an operator. -/
def value : Option (Gap × Word) → String
  | some (_, value) => value.text
  | none => ""

/-- The characters of a term. -/
def chars : TermForm → List Char
  | .compared key gap operator value => key.chars ++ gap.val ++ operator.chars ++ valueChars value
  | .present key => key.chars
  | .absent key => '!' :: key.chars

/-- What a term means for an object. -/
def Satisfied (r : Resource) : TermForm → Prop
  | .compared key _ .equal value => r.label? key.text = some (TermForm.value value)
  | .compared key _ .doubleEqual value => r.label? key.text = some (TermForm.value value)
  | .compared key _ .different value => r.label? key.text ≠ some (TermForm.value value)
  | .present key => ∃ value, r.label? key.text = some value
  | .absent key => r.label? key.text = none

/-- The term that is read. -/
def reading : TermForm → SelectorTerm
  | .compared key _ .equal value => .equal key.text (TermForm.value value)
  | .compared key _ .doubleEqual value => .equal key.text (String.ofList ('=' :: valueChars value))
  | .compared key _ .different value => .different key.text (TermForm.value value)
  | .present key => .present key.text
  | .absent key => .absent key.text

/-- Whether a term is written with two equals signs. -/
def IsDoubled : TermForm → Prop
  | .compared _ _ operator _ => operator = .doubleEqual
  | _ => False

end TermForm

/-- A term with the blanks around it. -/
structure Written where
  lead : Gap
  form : TermForm
  trail : Gap

/-- The characters of a term and of the blanks around it. -/
def Written.chars (t : Written) : List Char := t.lead.val ++ t.form.chars ++ t.trail.val

/-- The text of a selector. -/
def text (terms : List Written) : String :=
  String.ofList ([','].intercalate (terms.map Written.chars))

section Splitting

/-- The pieces of a text are what stands between its commas. -/
theorem pieces_eq_splitOn (cs : List Char) : pieces cs = cs.splitOn ',' := by
  induction cs with
  | nil => rfl
  | cons c rest ih =>
    rw [pieces, List.splitOn_cons_eq_if_modifyHead, ih]
    by_cases hc : c = ','
    · rw [if_pos hc, if_pos (by simp [hc])]
    · rw [if_neg hc, if_neg (by simp [hc])]
      cases hrest : rest.splitOn ',' with
      | nil => exact absurd hrest (List.splitOn_ne_nil ',' rest)
      | cons piece others => rfl

variable {before : List Char}

/-- A text is parted at its first equals sign. -/
theorem splitEqual_append (h : '=' ∉ before) (after : List Char) :
    splitEqual (before ++ '=' :: after) = some (before, after) := by
  induction before with
  | nil => rfl
  | cons c rest ih =>
    obtain ⟨hc, hrest⟩ := not_or.mp (fun hor => h (List.mem_cons.mpr hor))
    rw [List.cons_append, splitEqual, if_neg (Ne.symm hc), ih hrest]
    rfl

/-- A text without an equals sign is not parted. -/
theorem splitEqual_eq_none {cs : List Char} (h : '=' ∉ cs) : splitEqual cs = none := by
  induction cs with
  | nil => rfl
  | cons c rest ih =>
    obtain ⟨hc, hrest⟩ := not_or.mp (fun hor => h (List.mem_cons.mpr hor))
    rw [splitEqual, if_neg (Ne.symm hc), ih hrest]
    rfl

/-- A character that does not begin the operator stands before it. -/
theorem splitDifferent_cons {c : Char} {rest : List Char} (h : ∀ others, c = '!' → rest ≠ '=' :: others) :
    splitDifferent (c :: rest) = (splitDifferent rest).map fun (before, after) => (c :: before, after) := by
  rw [splitDifferent]
  exact h

/-- A text is parted at its first sign for difference. -/
theorem splitDifferent_append (h : '!' ∉ before) (after : List Char) :
    splitDifferent (before ++ '!' :: '=' :: after) = some (before, after) := by
  induction before with
  | nil => rfl
  | cons c rest ih =>
    obtain ⟨hc, hrest⟩ := not_or.mp (fun hor => h (List.mem_cons.mpr hor))
    rw [List.cons_append, splitDifferent_cons fun _ hbang => absurd hbang.symm hc, ih hrest]
    rfl

/-- A text without an exclamation mark is not parted there. -/
theorem splitDifferent_eq_none {cs : List Char} (h : '!' ∉ cs) : splitDifferent cs = none := by
  induction cs with
  | nil => rfl
  | cons c rest ih =>
    obtain ⟨hc, hrest⟩ := not_or.mp (fun hor => h (List.mem_cons.mpr hor))
    rw [splitDifferent_cons fun _ hbang => absurd hbang.symm hc, ih hrest]
    rfl

end Splitting

section Parts

/-- A character that is not plain is in no word. -/
theorem Word.not_mem (w : Word) {c : Char} (h : isPlain c = false) : c ∉ w.chars :=
  fun hc => Bool.noConfusion (h.symm.trans (w.plain c hc))

/-- No blanks stand around a word. -/
theorem Word.tight (w : Word) : Text.Tight w.chars :=
  Text.tight_of_forall fun c hc => by
    have hplain := w.plain c hc
    simp only [isPlain, Bool.and_eq_true, Bool.not_eq_true'] at hplain
    exact hplain.1.1.1

/-- What is not blank is in no gap. -/
theorem Gap.not_mem (gap : Gap) {c : Char} (h : Text.isBlank c = false) : c ∉ gap.val :=
  fun hc => Bool.noConfusion (h.symm.trans (gap.property c hc))

variable {c : Char} (hplain : isPlain c = false) (hblank : Text.isBlank c = false)

include hplain hblank

/-- A sign of an operator is not in a key, nor in the gap behind it. -/
theorem not_mem_key (key : Word) (gap : Gap) : c ∉ key.chars ++ gap.val := by
  rw [List.mem_append]
  exact not_or.mpr ⟨key.not_mem hplain, Gap.not_mem gap hblank⟩

/-- Nor is it in a value. -/
theorem not_mem_valueChars (value : Option (Gap × Word)) : c ∉ TermForm.valueChars value := by
  cases value with
  | none => exact List.not_mem_nil
  | some value =>
    rw [TermForm.valueChars, List.mem_append]
    exact not_or.mpr ⟨Gap.not_mem value.1 hblank, value.2.not_mem hplain⟩

end Parts

/-- Blanks behind a key are taken off. -/
theorem trim_key (key : Word) (gap : Gap) : Text.trim (key.chars ++ gap.val) = key.chars :=
  Text.trim_of_blank_after gap.property key.tight

/-- Blanks before a value are taken off. -/
theorem trim_valueChars (value : Option (Gap × Word)) :
    String.ofList (Text.trim (TermForm.valueChars value)) = TermForm.value value := by
  cases value with
  | none => rfl
  | some value =>
    rw [TermForm.valueChars, Text.trim_of_blank_before value.1.property value.2.tight]
    rfl

/-- There are no blanks at the ends of a term. -/
theorem TermForm.tight : (form : TermForm) → Text.Tight form.chars
  | .present key => key.tight
  | .absent key => by
    have htight : Text.Tight (['!'] ++ [] ++ key.chars) :=
      .between (Text.tight_singleton rfl) key.tight (List.cons_ne_nil _ _) key.nonempty []
    exact htight
  | .compared key gap operator none => by
    have hblank : operator.chars.all (fun c => !Text.isBlank c) = true := by cases operator <;> decide
    have hoperator : Text.Tight operator.chars := Text.tight_of_forall (by simpa using hblank)
    have htight := key.tight.between hoperator key.nonempty (by cases operator <;> simp [Operator.chars]) gap.val
    rwa [TermForm.chars, valueChars, List.append_nil]
  | .compared key gap operator (some (inner, value)) => by
    have htight := key.tight.between value.tight key.nonempty value.nonempty
      (gap.val ++ operator.chars ++ inner.val)
    simpa only [TermForm.chars, valueChars, List.append_assoc] using htight

/-- A term is never written with nothing at all. -/
theorem TermForm.chars_ne_nil (form : TermForm) : form.chars ≠ [] := by
  cases form with
  | present key => exact key.nonempty
  | absent key => exact List.cons_ne_nil _ _
  | compared key gap operator value => simp [TermForm.chars, key.nonempty]

/-- A term without an operator is read as it says. -/
theorem parseTerm_present (key : Word) : parseTerm key.chars = .present key.text := by
  unfold parseTerm
  rw [splitDifferent_eq_none (key.not_mem rfl), splitEqual_eq_none (key.not_mem rfl)]
  dsimp only
  split
  next rest hrest =>
    have hmem : '!' ∈ key.chars := hrest ▸ List.mem_cons_self
    exact absurd hmem (key.not_mem rfl)
  next => rfl

/-- A key behind an exclamation mark is asked to be absent. -/
theorem parseTerm_absent (key : Word) : parseTerm ('!' :: key.chars) = .absent key.text := by
  have hdifferent : splitDifferent ('!' :: key.chars) = none := by
    have hfirst : ∀ others, key.chars ≠ '=' :: others := fun others heq =>
      key.not_mem (c := '=') rfl (heq ▸ List.mem_cons_self)
    rw [splitDifferent_cons fun others _ => hfirst others, splitDifferent_eq_none (key.not_mem rfl)]
    rfl
  have hequal : splitEqual ('!' :: key.chars) = none := by
    rw [splitEqual, if_neg (by decide), splitEqual_eq_none (key.not_mem rfl)]
    rfl
  unfold parseTerm
  rw [hdifferent, hequal]
  rfl

/-- Behind a single equals sign, or behind the first of two, everything is the value. -/
theorem parseTerm_equal (key : Word) (gap : Gap) {value : List Char} (hvalue : '!' ∉ value) :
    parseTerm (key.chars ++ gap.val ++ '=' :: value) =
      .equal key.text (String.ofList (Text.trim value)) := by
  have hdifferent : splitDifferent (key.chars ++ gap.val ++ '=' :: value) = none := by
    refine splitDifferent_eq_none ?_
    rw [List.mem_append, List.mem_cons]
    exact not_or.mpr ⟨not_mem_key rfl rfl key gap, not_or.mpr ⟨by decide, hvalue⟩⟩
  unfold parseTerm
  rw [hdifferent, splitEqual_append (not_mem_key rfl rfl key gap)]
  dsimp only
  rw [trim_key]
  rfl

/-- A key before a sign for difference is asked to have another value. -/
theorem parseTerm_different (key : Word) (gap : Gap) (value : List Char) :
    parseTerm (key.chars ++ gap.val ++ '!' :: '=' :: value) =
      .different key.text (String.ofList (Text.trim value)) := by
  unfold parseTerm
  rw [splitDifferent_append (not_mem_key rfl rfl key gap)]
  dsimp only
  rw [trim_key]
  rfl

/-- With an equals sign in front a value has no blanks at its ends. -/
theorem trim_doubled (value : Option (Gap × Word)) :
    Text.trim ('=' :: TermForm.valueChars value) = '=' :: TermForm.valueChars value := by
  refine Text.trim_of_tight ?_
  cases value with
  | none => exact Text.tight_singleton rfl
  | some value =>
    have htight : Text.Tight (['='] ++ value.1.val ++ value.2.chars) :=
      .between (Text.tight_singleton rfl) value.2.tight (List.cons_ne_nil _ _) value.2.nonempty value.1.val
    exact htight

/-- Every term is read as it says, a second equals sign being part of the value. -/
theorem parseTerm_chars (form : TermForm) : parseTerm form.chars = form.reading := by
  cases form with
  | present key => exact parseTerm_present key
  | absent key => exact parseTerm_absent key
  | compared key gap operator value =>
    have hvalue : '!' ∉ TermForm.valueChars value := not_mem_valueChars rfl rfl value
    rw [TermForm.chars, List.append_assoc]
    cases operator with
    | equal =>
      rw [Operator.chars, List.singleton_append, parseTerm_equal key gap hvalue, trim_valueChars]
      rfl
    | doubleEqual =>
      have hdoubled : '!' ∉ '=' :: TermForm.valueChars value := by
        rw [List.mem_cons]
        exact not_or.mpr ⟨by decide, hvalue⟩
      rw [Operator.chars, List.cons_append, List.singleton_append, parseTerm_equal key gap hdoubled,
        trim_doubled]
      rfl
    | different =>
      rw [Operator.chars, List.cons_append, List.singleton_append, parseTerm_different, trim_valueChars]
      rfl

/-- A comma is in no term. -/
theorem TermForm.comma_not_mem (form : TermForm) : ',' ∉ form.chars := by
  cases form with
  | present key => exact key.not_mem rfl
  | absent key =>
    rw [chars, List.mem_cons]
    exact not_or.mpr ⟨by decide, key.not_mem rfl⟩
  | compared key gap operator value =>
    have hoperator : ',' ∉ operator.chars := by cases operator <;> decide
    rw [chars, List.mem_append, List.mem_append]
    exact not_or.mpr
      ⟨not_or.mpr ⟨not_mem_key rfl rfl key gap, hoperator⟩, not_mem_valueChars rfl rfl value⟩

/-- No comma is in a term. -/
theorem Written.comma_not_mem (t : Written) : ',' ∉ t.chars := by
  rw [chars, List.mem_append, List.mem_append]
  exact not_or.mpr ⟨not_or.mpr ⟨Gap.not_mem t.lead rfl, t.form.comma_not_mem⟩, Gap.not_mem t.trail rfl⟩

/-- The pieces of a selector, without the blanks around them, are its terms. -/
theorem pieces_text (terms : List Written) :
    ((pieces (text terms).toList).map Text.trim).filter (!·.isEmpty) = terms.map (·.form.chars) := by
  cases hterms : terms with
  | nil => rfl
  | cons t rest =>
    rw [← hterms]
    have hpieces : pieces (text terms).toList = terms.map Written.chars := by
      rw [text, String.toList_ofList, pieces_eq_splitOn]
      exact List.splitOn_intercalate ',' (List.forall_mem_map.mpr fun t _ => t.comma_not_mem)
        (by simp [hterms])
    have htrim : Text.trim ∘ Written.chars = fun t => t.form.chars :=
      funext fun t => Text.trim_of_blank t.lead.property t.trail.property t.form.tight
    rw [hpieces, List.map_map, htrim, List.filter_eq_self]
    exact List.forall_mem_map.mpr fun t _ => by simp [t.form.chars_ne_nil]

/-- A selector is read as the terms that it is written as. -/
theorem parse_text (terms : List Written) : parse (text terms) = terms.map (·.form.reading) := by
  rw [parse, pieces_text, List.map_map]
  exact List.map_congr_left fun t _ => parseTerm_chars t.form

/-- No value begins with an equals sign. -/
theorem value_ne_doubled (value : Option (Gap × Word)) :
    TermForm.value value ≠ String.ofList ('=' :: TermForm.valueChars value) := by
  intro heq
  have hmem : '=' ∈ (TermForm.value value).toList := by
    rw [heq, String.toList_ofList]
    exact List.mem_cons_self
  cases value with
  | none => simp [TermForm.value] at hmem
  | some value =>
    rw [TermForm.value, Word.text, String.toList_ofList] at hmem
    exact value.2.not_mem rfl hmem

/-- Every label may have every value. -/
theorem exists_label (key value : String) : ∃ r : Resource, r.label? key = some value := by
  let r : Resource :=
    ⟨[("apiVersion", .string "v1"), ("kind", .string "Namespace"),
      ("metadata", .object [("name", .string "a")])], by decide, by decide, by decide⟩
  exact ⟨r.setLabel key value, by rw [Resource.label?_setLabel, if_pos rfl]⟩

/-- A term is read as it is meant, on every object, exactly when it is not written with two equals signs. -/
theorem holds_reading_iff (form : TermForm) :
    (∀ r, form.reading.holds r = true ↔ form.Satisfied r) ↔ ¬form.IsDoubled := by
  cases form with
  | present key =>
    refine iff_of_true (fun r => ?_) not_false
    rw [TermForm.reading, SelectorTerm.holds, Option.isSome_iff_exists, TermForm.Satisfied]
  | absent key =>
    refine iff_of_true (fun r => ?_) not_false
    rw [TermForm.reading, SelectorTerm.holds, Option.isNone_iff_eq_none, TermForm.Satisfied]
  | compared key gap operator value =>
    cases operator with
    | equal =>
      refine iff_of_true (fun r => ?_) (by simp [TermForm.IsDoubled])
      rw [TermForm.reading, SelectorTerm.holds, beq_iff_eq, TermForm.Satisfied]
    | different =>
      refine iff_of_true (fun r => ?_) (by simp [TermForm.IsDoubled])
      rw [TermForm.reading, SelectorTerm.holds, bne_iff_ne, TermForm.Satisfied]
    | doubleEqual =>
      refine iff_of_false (fun h => ?_) (not_not_intro rfl)
      obtain ⟨r, hr⟩ := exists_label key.text (TermForm.value value)
      have hread := (h r).mpr hr
      rw [TermForm.reading, SelectorTerm.holds, beq_iff_eq, hr, Option.some.injEq] at hread
      exact value_ne_doubled value hread

/-- A selector holds of an object exactly when all its terms do, as they are read; and a term is read as
it is meant exactly when it is not written with two equals signs. With two, the label has to have a value
that begins with the second of them. -/
theorem holds_parse_text_iff (terms : List Written) :
    (∀ r : Resource, (parse (text terms)).holds r = true ↔
      ∀ t ∈ terms, t.form.reading.holds r = true) ∧
    ∀ form : TermForm, (∀ r, form.reading.holds r = true ↔ form.Satisfied r) ↔ ¬form.IsDoubled := by
  refine ⟨fun r => ?_, holds_reading_iff⟩
  rw [parse_text, holds, List.all_map, List.all_eq_true]
  rfl

/-- An object that has the value that two equals signs ask for is not found. -/
theorem not_holds_parse_text_of_doubled :
    ¬∀ (terms : List Written) (r : Resource),
      (parse (text terms)).holds r = true ↔ ∀ t ∈ terms, t.form.Satisfied r := by
  intro hclaim
  let r : Resource :=
    ⟨[("apiVersion", .string "v1"), ("kind", .string "ConfigMap"),
      ("metadata", .object [("labels", .object [("team", .string "blue")]), ("name", .string "a")])],
      by decide, by decide, by decide⟩
  let none : Gap := ⟨[], Text.blank_nil⟩
  let key : Word := ⟨"team".toList, by decide, List.all_eq_true.mp (by decide)⟩
  let value : Word := ⟨"blue".toList, by decide, List.all_eq_true.mp (by decide)⟩
  let term : Written := ⟨none, .compared key none .doubleEqual (some (none, value)), none⟩
  have hsatisfied : term.form.Satisfied r := rfl
  have hholds := (hclaim [term] r).mpr (List.forall_mem_singleton.mpr hsatisfied)
  exact absurd hholds (by decide)

end Reconcile.Selector
