import Reconcile.Yaml.Cursor
import Reconcile.Yaml.Token.Basic

/-!
# Directives, anchors and tags

How the tokens with names of their own are read: directives at the start of a line, anchors and
aliases, and tags in their three forms.
-/

namespace Reconcile.Yaml.Property

/-- The value of a pair of hexadecimal digits. -/
def hexPair? (a b : Char) : Option Nat := do some ((← digit a) * 16 + (← digit b))
where
  /-- The value of one digit. -/
  digit (c : Char) : Option Nat :=
    if c.isDigit then some (c.toNat - '0'.toNat)
    else if 'a' ≤ c ∧ c ≤ 'f' then some (c.toNat - 'a'.toNat + 10)
    else if 'A' ≤ c ∧ c ≤ 'F' then some (c.toNat - 'A'.toNat + 10)
    else none

/-- The bytes of a run of escapes such as `%C3%A9`, and the cursor behind as many of them as make
one character. -/
def escapedByte? (c : Cursor) : Option (Nat × Cursor) :=
  if c.here == '%' then do some (← hexPair? (c.ahead 1) (c.ahead 2), c.skip 3) else none

/-- How many bytes a character takes that starts with this byte. -/
def byteCount? (b : Nat) : Option Nat :=
  if b < 0x80 then some 1
  else if 0xC0 ≤ b ∧ b < 0xE0 then some 2
  else if 0xE0 ≤ b ∧ b < 0xF0 then some 3
  else if 0xF0 ≤ b ∧ b < 0xF8 then some 4
  else none

/-- Adds `n` more escaped bytes of a character to its code. -/
def escapedTail : Nat → Nat → Cursor → Option (Nat × Cursor)
  | 0, code, c => some (code, c)
  | n + 1, code, c => do
    let (b, c) ← escapedByte? c
    if 0x80 ≤ b ∧ b < 0xC0 then escapedTail n (code * 64 + (b - 0x80)) c else none

/-- The character that an escape in a tag stands for. -/
def escapedChar? (c : Cursor) : Option (Char × Cursor) := do
  let (b, c) ← escapedByte? c
  let n ← byteCount? b
  let lead := if n = 1 then b else b % (0x80 >>> n)
  let (code, c) ← escapedTail (n - 1) lead c
  if h : code.isValidChar then some (⟨UInt32.ofNat code, by simpa using validOf code h⟩, c) else none
where
  /-- A valid code stays valid as a word. -/
  validOf (n : Nat) (h : n.isValidChar) : (UInt32.ofNat n).isValidChar := by
    have : n < 4294967296 := by rcases h with h | ⟨_, h⟩ <;> omega
    simpa [UInt32.isValidChar, UInt32.toNat_ofNat, Nat.mod_eq_of_lt this] using h

/-- The characters of a tag; brackets and commas belong to its verbatim form only. -/
def isTagChar (verbatim : Bool) (c : Char) : Bool :=
  isWord c || ";/?:@&=+$.%!~*'()".toList.contains c || (verbatim && ",[]".toList.contains c)

/-- Reads the characters of a tag, escapes resolved. -/
def tagChars (verbatim : Bool) : Nat → List Char → Cursor → Option (List Char × Cursor)
  | 0, _, _ => none
  | fuel + 1, read, c =>
    if isTagChar verbatim c.here then
      if c.here == '%' then do
        let (ch, c) ← escapedChar? c
        tagChars verbatim fuel (ch :: read) c
      else tagChars verbatim fuel (c.here :: read) (c.skip 1)
    else some (read.reverse, c)

/-- Reads what follows a handle; after an empty `head` there must be something. -/
def tagRest (verbatim : Bool) (head : List Char) (c : Cursor) : Option (String × Cursor) := do
  let (chars, c) ← tagChars verbatim (c.rest.length + 1) [] c
  if head.isEmpty && chars.isEmpty then none else some (String.ofList (head.drop 1 ++ chars), c)

/-- Reads a handle: an exclamation mark, or word characters between two of them. -/
def tagHandle (directive : Bool) (c : Cursor) : Option (List Char × Cursor) :=
  if c.here == '!' then
    let (word, c) := (c.skip 1).takeWhile isWord
    if c.here == '!' then some ('!' :: word ++ ['!'], c.skip 1)
    else if directive && !word.isEmpty then none
    else some ('!' :: word, c)
  else none

/-- Reads a tag: verbatim in angle brackets, with a named handle, or with the primary one. -/
def tag (inFlow : Bool) (c : Cursor) : Option (Token × Cursor) := do
  let (token, c) ←
    if c.ahead 1 == '<' then do
      let (suffix, c) ← tagRest true [] (c.skip 2)
      if c.here == '>' then some (Token.tag "" suffix, c.skip 1) else none
    else do
      let (handle, c) ← tagHandle false c
      if handle.length > 1 && handle.getLast? == some '!' then do
        let (suffix, c) ← tagRest false [] c
        some (.tag (String.ofList handle) suffix, c)
      else do
        let (suffix, c) ← tagRest false handle c
        some (if suffix == "" then .tag "" "!" else .tag "!" suffix, c)
  if isGap c.here || (inFlow && c.here == ',') then some (token, c) else none

/-- Reads an anchor or an alias behind its indicator. -/
def anchorName (c : Cursor) : Option (String × Cursor) :=
  let (name, c) := (c.skip 1).takeWhile isWord
  if name.isEmpty then none
  else if isGap c.here || "?:,]\x7d%@`".toList.contains c.here then some (String.ofList name, c)
  else none

/-- Reads a number of at most nine digits. -/
def versionNumber (c : Cursor) : Option (Nat × Cursor) :=
  let (digits, c) := c.takeWhile Char.isDigit
  if digits.isEmpty || digits.length > 9 then none
  else some (digits.foldl (fun n d => n * 10 + (d.toNat - '0'.toNat)) 0, c)

/-- Reads a directive from its percent sign to the end of the line. -/
def directive (c : Cursor) : Option (Token × Cursor) := do
  let (name, c) := (c.skip 1).takeWhile isWord
  if !isGap c.here then none
  else
    let (token, c) ←
      if name == "YAML".toList then do
        let (major, c) ← versionNumber (c.skipWhile isBlank)
        if c.here != '.' then none
        else do
          let (minor, c) ← versionNumber (c.skip 1)
          some (Token.versionDirective major minor, c)
      else if name == "TAG".toList then do
        let (handle, c) ← tagHandle true (c.skipWhile isBlank)
        if !isBlank c.here then none
        else do
          let (lead, c) ← tagRest true [] (c.skipWhile isBlank)
          if isGap c.here then some (.tagDirective (String.ofList handle) lead, c) else none
      else none
    let c ← c.endLine?
    some (token, c)

end Reconcile.Yaml.Property
