import Reconcile.Json.Printer
import Reconcile.Proofs.Json.Depth
import Reconcile.Proofs.Json.Numeral

/-!
# Reading what was printed

A value that is printed without blanks is read back, if it is well formed and nests no deeper than the
reader goes. That takes every part of the format but one: the text of a binary64 value is read with two
roundings, and may come out as a neighbour. `Binary64.ReadsBack` says of a value that it does not.
-/

namespace Reconcile

/-- The text of a binary64 value is read as that value, to its end. -/
def Binary64.ReadsBack (x : Binary64) : Prop :=
  Json.readValue 1 0 x.text.toList = some (.number (.float x), [])

/-- Whether a float is read back can be decided. -/
instance (x : Binary64) : Decidable x.ReadsBack := inferInstanceAs (Decidable (_ = _))

namespace Fields

/-- A key greater than all others is put in at the end. -/
theorem insert_last {k : String} {fields : Fields} (h : ∀ m ∈ fields, m.1 < k) (v : Json) :
    fields.insert k v = fields ++ [(k, v)] := by
  induction fields with
  | nil => rfl
  | cons member rest ih =>
    obtain ⟨hlt, hrest⟩ := List.forall_mem_cons.mp h
    rw [insert, if_neg (Std.ne_of_lt hlt), if_neg (Std.not_gt_of_lt hlt), ih hrest]
    rfl

/-- Members in rising order are what they are put together to. -/
theorem ofList_of_rising {fields : Fields} (rising : fields.Rising) : ofList fields = fields := by
  have hfold (before after : Fields) (rising : Rising (before ++ after)) :
      after.foldl (fun fields m => insert m.1 m.2 fields) before = before ++ after := by
    induction after generalizing before with
    | nil => exact (List.append_nil before).symm
    | cons m after ih =>
      have hlast : ∀ other ∈ before, other.1 < m.1 := fun other hother =>
        (List.pairwise_append.mp rising).2.2 other hother m List.mem_cons_self
      rw [List.append_cons] at rising
      rw [List.foldl_cons, insert_last hlast, ih _ rising, ← List.append_cons]
  exact hfold [] fields rising

end Fields

namespace Json

mutual

/-- The binary64 values in a value. -/
def floats : Json → List Binary64
  | .number (.float x) => [x]
  | .array items => itemsFloats items
  | .object members => fieldsFloats members
  | _ => []

/-- The binary64 values in a list of values. -/
def itemsFloats : List Json → List Binary64
  | [] => []
  | v :: rest => v.floats ++ itemsFloats rest

/-- The binary64 values in a list of members. -/
def fieldsFloats : List (String × Json) → List Binary64
  | [] => []
  | (_, v) :: rest => v.floats ++ fieldsFloats rest

end

/-- The floats of an item are among those of the list. -/
theorem mem_itemsFloats {items : List Json} {v : Json} (h : v ∈ items) {x : Binary64}
    (hx : x ∈ v.floats) : x ∈ itemsFloats items := by
  induction items with
  | nil => simp at h
  | cons w rest ih =>
    rw [itemsFloats, List.mem_append]
    rcases List.mem_cons.mp h with rfl | h
    · exact .inl hx
    · exact .inr (ih h)

/-- The floats of a member are among those of the object. -/
theorem mem_fieldsFloats {members : List (String × Json)} {m : String × Json} (h : m ∈ members)
    {x : Binary64} (hx : x ∈ m.2.floats) : x ∈ fieldsFloats members := by
  induction members with
  | nil => simp at h
  | cons other rest ih =>
    rw [fieldsFloats, List.mem_append]
    rcases List.mem_cons.mp h with rfl | h
    · exact .inl hx
    · exact .inr (ih h)

/-! ### Strings -/

/-- A digit of an escape is read as its value. -/
theorem hexValue_digitChar : ∀ n < 16, readHex4.hexValue n.digitChar = some n := by decide

/-- The code of a control character starts with two zeros. -/
theorem hex4_eq : ∀ n < 32, hex4 n = ['0', '0', (n / 16).digitChar, (n % 16).digitChar] := by decide

/-- The code point of a control is read back. -/
theorem readHex4_hex4 {n : Nat} (hn : n < 32) (rest : List Char) :
    readHex4 (hex4 n ++ rest) = some (n, rest) := by
  have hhigh := hexValue_digitChar (n / 16) (by omega)
  have hlow := hexValue_digitChar (n % 16) (by omega)
  have hzero : readHex4.hexValue '0' = some 0 := rfl
  have hvalue : n / 16 * 16 + n % 16 = n := Nat.div_add_mod' n 16
  rw [hex4_eq n hn]
  simp [readHex4, hhigh, hlow, hzero, hvalue]

/-- A character that is written as itself is read as itself. -/
theorem readString_plain (fuel : Nat) (read : List Char) {c : Char} (hquote : c ≠ '"') (hslash : c ≠ '\\')
    (hcontrol : ¬c < ' ') (rest : List Char) :
    readString (fuel + 1) read (c :: rest) = readString fuel (c :: read) rest := by
  rw [readString]
  · exact if_neg hcontrol
  · exact hquote
  · exact hslash

/-- A control is read back from its code point. -/
theorem readEscape_control {c : Char} (hcontrol : c < ' ') (rest : List Char) :
    readEscape ('u' :: (hex4 c.toNat ++ rest)) = some (c, rest) := by
  have hn : c.toNat < 32 := hcontrol
  rw [readEscape, readUnicode, readHex4_hex4 hn, Option.bind_eq_bind, Option.bind_some]
  dsimp only
  rw [if_pos (.inl (by omega)), Char.ofNat_toNat]

/-- A character is read back from its escaped form. -/
theorem readString_escapedChar (fuel : Nat) (read : List Char) (c : Char) (rest : List Char) :
    readString (fuel + 1) read (escapedChar c ++ rest) = readString fuel (c :: read) rest := by
  unfold escapedChar
  split
  iterate 7 rfl
  next hquote hslash _ _ _ _ _ =>
    split
    next hcontrol =>
      change (readEscape ('u' :: (hex4 c.toNat ++ rest))).bind _ = _
      rw [readEscape_control hcontrol]
      rfl
    next hcontrol => exact readString_plain fuel read hquote hslash hcontrol rest

/-- Every character is written with something. -/
theorem escapedChar_ne_nil (c : Char) : escapedChar c ≠ [] := by
  unfold escapedChar
  repeat' split
  all_goals simp

/-- A string is read back up to its closing quote. -/
theorem readString_escaped {fuel : Nat} (cs : List Char) (hfuel : (cs.flatMap escapedChar).length < fuel)
    (read rest : List Char) :
    readString fuel read (cs.flatMap escapedChar ++ '"' :: rest) =
      some (String.ofList (read.reverse ++ cs), rest) := by
  induction cs generalizing fuel read with
  | nil =>
    obtain ⟨fuel, rfl⟩ := Nat.exists_eq_succ_of_ne_zero (Nat.ne_zero_of_lt hfuel)
    rw [List.append_nil]
    rfl
  | cons c cs ih =>
    obtain ⟨fuel, rfl⟩ := Nat.exists_eq_succ_of_ne_zero (Nat.ne_zero_of_lt hfuel)
    have hpos := List.length_pos_iff.mpr (escapedChar_ne_nil c)
    rw [List.flatMap_cons, List.length_append] at hfuel
    rw [List.flatMap_cons, List.append_assoc, readString_escapedChar, ih (by omega), List.reverse_cons,
      List.append_assoc]
    rfl

/-- A string is read back behind its opening quote. -/
theorem readString_text (s : String) (rest : List Char) :
    readString ((s.toList.flatMap escapedChar ++ '"' :: rest).length + 1) []
      (s.toList.flatMap escapedChar ++ '"' :: rest) = some (s, rest) := by
  rw [List.length_append, readString_escaped s.toList (by omega), List.reverse_nil, List.nil_append,
    String.ofList_toList]

/-! ### Values -/

/-- The items of a list are printed one by one. -/
theorem itemsWith_eq (items : List Json) : itemsWith escapedChar items = items.map compact := by
  induction items with
  | nil => rw [itemsWith, List.map_nil]
  | cons v rest ih => rw [itemsWith, ih, List.map_cons, compact]

/-- The text of a member. -/
def memberText (m : String × Json) : String := stringText m.1 ++ ":" ++ m.2.compact

/-- The members of an object are printed one by one. -/
theorem fieldsWith_eq (members : Fields) : fieldsWith escapedChar members = members.map memberText := by
  induction members with
  | nil => rw [fieldsWith, List.map_nil]
  | cons m rest ih => rw [fieldsWith, ih, List.map_cons, memberText, compact, stringText]

/-- The characters of texts with commas between them. -/
def joined (texts : List String) : List Char := (",".intercalate texts).toList

/-- One text is joined to itself. -/
theorem joined_singleton (text : String) : joined [text] = text.toList := by
  simp [joined]

/-- Between two texts there is a comma. -/
theorem joined_cons_cons (first second : String) (rest : List String) :
    joined (first :: second :: rest) = first.toList ++ ',' :: joined (second :: rest) := by
  simp [joined]

/-- Joined texts start as the first one does. -/
theorem exists_joined_cons {text : String} {c : Char} {tail : List Char} (h : text.toList = c :: tail)
    (rest : List String) : ∃ tail, joined (text :: rest) = c :: tail := by
  cases rest with
  | nil => exact ⟨tail, (joined_singleton text).trans h⟩
  | cons second rest => exact ⟨tail ++ ',' :: joined (second :: rest), by rw [joined_cons_cons, h]; rfl⟩

/-- A list is printed in square brackets. -/
theorem toList_compact_array (items : List Json) :
    (compact (.array items)).toList = '[' :: (joined (items.map compact) ++ [']']) := by
  rw [compact, compactWith, itemsWith_eq, String.toList_append, String.toList_append]
  rfl

/-- An object is printed in curly brackets. -/
theorem toList_compact_object (members : Fields) :
    (compact (.object members)).toList = '{' :: (joined (members.map memberText) ++ ['}']) := by
  rw [compact, compactWith, fieldsWith_eq, String.toList_append, String.toList_append]
  rfl

/-- A text is printed in quotation marks. -/
theorem toList_stringText (s : String) :
    (stringText s).toList = '"' :: (s.toList.flatMap escapedChar ++ ['"']) := by
  rw [stringText, stringWith, String.toList_ofList]
  rfl

/-- A value is read back from its text, whatever follows it. -/
def ReadBack (v : Json) : Prop :=
  ∀ {room fuel : Nat} {rest : List Char}, v.depth ≤ room → v.compact.toList.length < fuel →
    EndsNumber rest → readValue fuel room (v.compact.toList ++ rest) = some (v, rest)

/-- Nothing is skipped before what is not blank. -/
theorem skipBlanks_cons {c : Char} (h : isBlank c = false) (cs : List Char) :
    skipBlanks (c :: cs) = c :: cs := by
  rw [skipBlanks, List.dropWhile_cons, h]
  rfl

/-- A number may end where the text does. -/
theorem endsNumber_nil : EndsNumber [] := fun _ h => nomatch h

/-- A comma or a closing bracket ends a number. -/
theorem endsNumber_cons {c : Char} (h : c ∈ [',', ']', '}']) (rest : List Char) :
    EndsNumber (c :: rest) := by
  have hends : ∀ c ∈ [',', ']', '}'], c.isDigit = false ∧ c ≠ '.' ∧ c ≠ 'e' ∧ c ≠ 'E' := by simp
  rintro d ⟨⟩
  exact hends c h

/-- What is read as a value starts neither with a blank nor with a closing bracket. -/
theorem exists_start_of_readValue {fuel room : Nat} {cs : List Char} {read : Json × List Char}
    (h : readValue fuel room cs = some read) : ∃ c tail, cs = c :: tail ∧ isBlank c = false ∧ c ≠ ']' := by
  cases fuel with
  | zero => simp [readValue] at h
  | succ fuel =>
    unfold readValue at h
    split at h
    case h_8 =>
      obtain ⟨⟨n, after⟩, hnumber, -⟩ := Option.bind_eq_some_iff.mp h
      obtain ⟨c, digits, rfl, hdigit⟩ := exists_digit_of_readNumber hnumber
      have hne {d : Char} (hd : d.isDigit = false) : c ≠ d := by
        rintro rfl
        simp [hdigit] at hd
      refine ⟨c, digits, rfl, ?_, hne rfl⟩
      simp [isBlank, @hne ' ' rfl, @hne '\n' rfl, @hne '\t' rfl, @hne '\r' rfl]
    all_goals exact ⟨_, _, rfl, by decide, by decide⟩

/-- What is read back starts with neither a blank nor the end of a list. -/
theorem exists_start_of_readBack {v : Json} (h : ReadBack v) :
    ∃ c tail, v.compact.toList = c :: tail ∧ isBlank c = false ∧ c ≠ ']' := by
  have hread := h (Nat.le_refl _) (Nat.lt_succ_self _) endsNumber_nil
  rw [List.append_nil] at hread
  exact exists_start_of_readValue hread

/-- So nothing is skipped before it. -/
theorem skipBlanks_compact {v : Json} (h : ReadBack v) (rest : List Char) :
    skipBlanks (v.compact.toList ++ rest) = v.compact.toList ++ rest := by
  obtain ⟨c, tail, hstart, hblank, -⟩ := exists_start_of_readBack h
  rw [hstart]
  exact skipBlanks_cons hblank _

section Items

variable {fuel room : Nat} {v : Json} (h : ReadBack v) (hdepth : v.depth ≤ room)
  (hfuel : v.compact.toList.length < fuel) (rest : List Char)

include h hdepth hfuel

/-- Behind an item and a comma, further items are read. -/
theorem readItems_comma :
    readItems (fuel + 1) room (v.compact.toList ++ ',' :: rest) =
      (readItems fuel room (skipBlanks rest)).map fun (items, rest) => (v :: items, rest) := by
  rw [readItems, h hdepth hfuel (endsNumber_cons (by decide) rest)]
  change (readItems fuel room (skipBlanks rest)).bind _ = _
  cases readItems fuel room (skipBlanks rest) <;> rfl

/-- Behind an item and a bracket, there are no more items. -/
theorem readItems_bracket :
    readItems (fuel + 1) room (v.compact.toList ++ ']' :: rest) = some ([v], rest) := by
  rw [readItems, h hdepth hfuel (endsNumber_cons (by decide) rest)]
  rfl

end Items

/-- There are no blanks before items. -/
theorem skipBlanks_items {v : Json} (h : ReadBack v) (items : List Json) (rest : List Char) :
    skipBlanks (joined ((v :: items).map compact) ++ rest) = joined ((v :: items).map compact) ++ rest := by
  obtain ⟨c, tail, hstart, hblank, -⟩ := exists_start_of_readBack h
  obtain ⟨tail, hjoined⟩ := exists_joined_cons hstart (items.map compact)
  rw [List.map_cons, hjoined]
  exact skipBlanks_cons hblank _

/-- Items that are read back one by one are read back with commas between them. -/
theorem readItems_joined {items : List Json} (hne : items ≠ []) (h : ∀ v ∈ items, ReadBack v)
    {fuel room : Nat} (hdepth : ∀ v ∈ items, v.depth ≤ room)
    (hfuel : (joined (items.map compact)).length + 1 < fuel) (rest : List Char) :
    readItems fuel room (joined (items.map compact) ++ ']' :: rest) = some (items, rest) := by
  induction items generalizing fuel with
  | nil => exact absurd rfl hne
  | cons v others ih =>
    obtain ⟨fuel, rfl⟩ := Nat.exists_eq_succ_of_ne_zero (Nat.ne_zero_of_lt hfuel)
    obtain ⟨hv, hothers⟩ := List.forall_mem_cons.mp h
    obtain ⟨hvdepth, hothersDepth⟩ := List.forall_mem_cons.mp hdepth
    cases others with
    | nil =>
      rw [List.map_singleton, joined_singleton] at hfuel ⊢
      exact readItems_bracket hv hvdepth (Nat.lt_of_succ_lt_succ hfuel) rest
    | cons w others =>
      rw [List.map_cons, List.map_cons, joined_cons_cons, ← List.map_cons] at hfuel ⊢
      rw [List.length_append, List.length_cons] at hfuel
      rw [List.append_assoc, List.cons_append, readItems_comma hv hvdepth (by omega),
        skipBlanks_items (List.forall_mem_cons.mp hothers).1,
        ih (List.cons_ne_nil w others) hothers hothersDepth (by omega)]
      rfl

/-- A member is printed as its key, a colon and its value. -/
theorem toList_memberText (key : String) (v : Json) :
    (memberText (key, v)).toList =
      '"' :: (key.toList.flatMap escapedChar ++ '"' :: ':' :: v.compact.toList) := by
  rw [memberText, String.toList_append, String.toList_append, toList_stringText]
  simp

section Members

variable {fuel room : Nat} {key : String} {v : Json} (h : ReadBack v) (hdepth : v.depth ≤ room)
  (hfuel : (memberText (key, v)).toList.length ≤ fuel)

include h hdepth hfuel

/-- A member is read back, and reading goes on behind it. -/
theorem readMembers_member {rest : List Char} (hrest : EndsNumber rest) :
    readMembers (fuel + 1) room ((memberText (key, v)).toList ++ rest) =
      match skipBlanks rest with
      | ',' :: rest => do
        let (members, rest) ← readMembers fuel room (skipBlanks rest)
        some ((key, v) :: members, rest)
      | '}' :: rest => some ([(key, v)], rest)
      | _ => none := by
  have hvalue : readValue fuel room (skipBlanks (v.compact.toList ++ rest)) = some (v, rest) := by
    rw [toList_memberText, List.length_cons, List.length_append, List.length_cons, List.length_cons] at hfuel
    rw [skipBlanks_compact h]
    exact h hdepth (by omega) hrest
  rw [toList_memberText, List.cons_append, List.append_assoc, List.cons_append, List.cons_append, readMembers,
    readString_text, Option.bind_eq_bind, Option.bind_some]
  change (readValue fuel room (skipBlanks (v.compact.toList ++ rest))).bind _ = _
  rw [hvalue]
  rfl

/-- Behind a member and a comma, further members are read. -/
theorem readMembers_comma (rest : List Char) :
    readMembers (fuel + 1) room ((memberText (key, v)).toList ++ ',' :: rest) =
      (readMembers fuel room (skipBlanks rest)).map fun (members, rest) => ((key, v) :: members, rest) := by
  rw [readMembers_member h hdepth hfuel (endsNumber_cons (by decide) rest)]
  change (readMembers fuel room (skipBlanks rest)).bind _ = _
  cases readMembers fuel room (skipBlanks rest) <;> rfl

/-- Behind a member and a brace, there are no more members. -/
theorem readMembers_brace (rest : List Char) :
    readMembers (fuel + 1) room ((memberText (key, v)).toList ++ '}' :: rest) = some ([(key, v)], rest) :=
  readMembers_member h hdepth hfuel (endsNumber_cons (by decide) rest)

end Members

/-- Members start with a quotation mark. -/
theorem exists_joined_members (m : String × Json) (members : List (String × Json)) :
    ∃ tail, joined ((m :: members).map memberText) = '"' :: tail :=
  exists_joined_cons (toList_memberText m.1 m.2) (members.map memberText)

/-- There are no blanks before members. -/
theorem skipBlanks_members (m : String × Json) (members : List (String × Json)) (rest : List Char) :
    skipBlanks (joined ((m :: members).map memberText) ++ rest) =
      joined ((m :: members).map memberText) ++ rest := by
  obtain ⟨tail, hjoined⟩ := exists_joined_members m members
  rw [hjoined]
  exact skipBlanks_cons (by decide) _

/-- Members that are read back one by one are read back with commas between them. -/
theorem readMembers_joined {members : List (String × Json)} (hne : members ≠ [])
    (h : ∀ m ∈ members, ReadBack m.2) {fuel room : Nat} (hdepth : ∀ m ∈ members, m.2.depth ≤ room)
    (hfuel : (joined (members.map memberText)).length < fuel) (rest : List Char) :
    readMembers fuel room (joined (members.map memberText) ++ '}' :: rest) = some (members, rest) := by
  induction members generalizing fuel with
  | nil => exact absurd rfl hne
  | cons m others ih =>
    obtain ⟨key, v⟩ := m
    obtain ⟨fuel, rfl⟩ := Nat.exists_eq_succ_of_ne_zero (Nat.ne_zero_of_lt hfuel)
    obtain ⟨hm, hothers⟩ := List.forall_mem_cons.mp h
    obtain ⟨hmdepth, hothersDepth⟩ := List.forall_mem_cons.mp hdepth
    dsimp only at hm hmdepth
    cases others with
    | nil =>
      rw [List.map_singleton, joined_singleton] at hfuel ⊢
      exact readMembers_brace hm hmdepth (Nat.le_of_lt_succ hfuel) rest
    | cons other others =>
      rw [List.map_cons, List.map_cons, joined_cons_cons, ← List.map_cons] at hfuel ⊢
      rw [List.length_append, List.length_cons] at hfuel
      rw [List.append_assoc, List.cons_append, readMembers_comma hm hmdepth (by omega), skipBlanks_members,
        ih (List.cons_ne_nil other others) hothers hothersDepth (by omega)]
      rfl

section Brackets

variable {fuel room : Nat} (hroom : room ≠ 0) {c : Char} (hblank : isBlank c = false)

include hroom hblank

/-- Behind a bracket that is not closed at once there are items. -/
theorem readValue_bracket (hclose : c ≠ ']') (cs : List Char) :
    readValue (fuel + 1) room ('[' :: c :: cs) =
      (readItems fuel (room - 1) (c :: cs)).map fun (items, rest) => (.array items, rest) := by
  rw [readValue, if_neg hroom, skipBlanks_cons hblank]
  split
  next heq => exact absurd (List.cons.inj heq).1 hclose
  next => cases readItems fuel (room - 1) (c :: cs) <;> rfl

/-- Behind a brace that is not closed at once there are members. -/
theorem readValue_brace (hclose : c ≠ '}') (cs : List Char) :
    readValue (fuel + 1) room ('{' :: c :: cs) =
      (readMembers fuel (room - 1) (c :: cs)).map fun (members, rest) => (.ofMembers members, rest) := by
  rw [readValue, if_neg hroom, skipBlanks_cons hblank]
  split
  next heq => exact absurd (List.cons.inj heq).1 hclose
  next => cases readMembers fuel (room - 1) (c :: cs) <;> rfl

end Brackets

/-- A number is read back if it is not a float, or one that is read back. -/
theorem readBack_number {n : Number} (hfloats : ∀ x, n = .float x → x.ReadsBack) : ReadBack (.number n) := by
  intro room fuel rest _ hfuel hrest
  obtain ⟨fuel, rfl⟩ := Nat.exists_eq_succ_of_ne_zero (Nat.ne_zero_of_lt hfuel)
  rw [compact, compactWith]
  cases n with
  | integer z => exact readValue_integer hrest z
  | float x => exact readValue_number_append hrest (hfloats x rfl)

/-- A text is read back. -/
theorem readBack_string (s : String) : ReadBack (.string s) := by
  intro room fuel rest _ hfuel _
  obtain ⟨fuel, rfl⟩ := Nat.exists_eq_succ_of_ne_zero (Nat.ne_zero_of_lt hfuel)
  have htext : (compact (.string s)).toList ++ rest =
      '"' :: (s.toList.flatMap escapedChar ++ '"' :: rest) := by
    rw [compact, compactWith, ← stringText, toList_stringText]
    simp
  rw [htext, readValue, readString_text]
  rfl

/-- An array is read back when its items are. -/
theorem readBack_array {items : List Json} (h : ∀ v ∈ items, ReadBack v) : ReadBack (.array items) := by
  intro room fuel rest hdepth hfuel _
  obtain ⟨fuel, rfl⟩ := Nat.exists_eq_succ_of_ne_zero (Nat.ne_zero_of_lt hfuel)
  rw [depth] at hdepth
  rw [toList_compact_array, List.length_cons, List.length_append, List.length_singleton] at hfuel
  rw [toList_compact_array, List.cons_append, List.append_assoc, List.singleton_append]
  cases items with
  | nil =>
    rw [List.map_nil, readValue, if_neg (by omega)]
    rfl
  | cons v others =>
    have hroom : ∀ w ∈ v :: others, w.depth ≤ room - 1 := fun w hw => by
      have := depth_le_itemsDepth hw
      omega
    have hitems : readItems fuel (room - 1) (joined ((v :: others).map compact) ++ ']' :: rest) =
        some (v :: others, rest) :=
      readItems_joined (List.cons_ne_nil v others) h hroom (by omega) rest
    obtain ⟨c, tail, hstart, hblank, hclose⟩ := exists_start_of_readBack (h v List.mem_cons_self)
    obtain ⟨tail, hjoined⟩ := exists_joined_cons hstart (others.map compact)
    rw [List.map_cons, hjoined, List.cons_append] at hitems ⊢
    rw [readValue_bracket (by omega) hblank hclose, hitems]
    rfl

/-- An object is read back when its members are, and in rising order. -/
theorem readBack_object {members : Fields} (rising : members.Rising) (h : ∀ m ∈ members, ReadBack m.2) :
    ReadBack (.object members) := by
  intro room fuel rest hdepth hfuel _
  obtain ⟨fuel, rfl⟩ := Nat.exists_eq_succ_of_ne_zero (Nat.ne_zero_of_lt hfuel)
  rw [depth] at hdepth
  rw [toList_compact_object, List.length_cons, List.length_append, List.length_singleton] at hfuel
  rw [toList_compact_object, List.cons_append, List.append_assoc, List.singleton_append]
  cases members with
  | nil =>
    rw [List.map_nil, readValue, if_neg (by omega)]
    rfl
  | cons m others =>
    have hroom : ∀ w ∈ m :: others, w.2.depth ≤ room - 1 := fun w hw => by
      have := depth_le_fieldsDepth hw
      omega
    have hmembers : readMembers fuel (room - 1) (joined ((m :: others).map memberText) ++ '}' :: rest) =
        some (m :: others, rest) :=
      readMembers_joined (List.cons_ne_nil m others) h hroom (by omega) rest
    obtain ⟨tail, hjoined⟩ := exists_joined_members m others
    rw [hjoined, List.cons_append] at hmembers ⊢
    have hobject : ofMembers (m :: others) = .object (m :: others) :=
      congrArg Json.object (Fields.ofList_of_rising rising)
    rw [readValue_brace (by omega) (by decide) (by decide), hmembers]
    exact congrArg (fun v => some (v, rest)) hobject

/-- Every well formed value is read back when its binary64 values are. -/
theorem readBack_of_wellFormed {v : Json} (hwf : v.WellFormed) (hfloats : ∀ x ∈ v.floats, x.ReadsBack) :
    ReadBack v := by
  induction v with
  | null =>
    intro room fuel rest _ hfuel _
    obtain ⟨fuel, rfl⟩ := Nat.exists_eq_succ_of_ne_zero (Nat.ne_zero_of_lt hfuel)
    rfl
  | bool b =>
    intro room fuel rest _ hfuel _
    obtain ⟨fuel, rfl⟩ := Nat.exists_eq_succ_of_ne_zero (Nat.ne_zero_of_lt hfuel)
    cases b <;> rfl
  | number n =>
    refine readBack_number fun x hx => hfloats x ?_
    rw [hx, floats]
    exact List.mem_singleton_self x
  | string s => exact readBack_string s
  | array items ih =>
    rw [floats] at hfloats
    refine readBack_array fun v hv => ih v hv ?_ fun x hx => hfloats x (mem_itemsFloats hv hx)
    cases hwf with
    | array _ each => exact each v hv
  | object members ih =>
    rw [floats] at hfloats
    cases hwf with
    | object _ rising each =>
      exact readBack_object rising fun m hm =>
        ih m hm (each m hm) fun x hx => hfloats x (mem_fieldsFloats hm hx)

/-- What was printed without blanks is read back. -/
theorem parse?_compact {v : Json} (hwf : v.WellFormed) (hdepth : v.depth ≤ maxDepth)
    (hfloats : ∀ x ∈ v.floats, x.ReadsBack) : parse? v.compact = some v := by
  have hread : ReadBack v := readBack_of_wellFormed hwf hfloats
  have hstart := skipBlanks_compact hread []
  have hvalue := hread hdepth (Nat.lt_succ_self _) endsNumber_nil
  rw [List.append_nil] at hstart hvalue
  rw [parse?, hstart]
  dsimp only
  rw [hvalue]
  rfl

end Json

end Reconcile
