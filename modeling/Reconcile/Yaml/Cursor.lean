/-!
# Places in a YAML text

A cursor is a place in a text: what is still to be read, and the index, line and column reached.
Character classes of YAML are predicates on the character at a cursor; beyond the end of the text
stands the NUL character, which no YAML text contains.
-/

namespace Reconcile.Yaml

/-- What stands beyond the end of a text. -/
def endMark : Char := '\x00'

/-- A space or a tab. -/
def isBlank (c : Char) : Bool := c == ' ' || c == '\t'

/-- The line breaks: the ASCII ones, the next-line control and the two Unicode separators. -/
def isBreak (c : Char) : Bool :=
  c == '\n' || c == '\r' || c == '\u0085' || c == '\u2028' || c == '\u2029'

/-- A line break or the end. -/
def isBreakOrEnd (c : Char) : Bool := isBreak c || c == endMark

/-- A blank, a line break or the end. -/
def isGap (c : Char) : Bool := isBlank c || isBreakOrEnd c

/-- The characters of anchors and tag handles. -/
def isWord (c : Char) : Bool := c.isAlphanum || c == '_' || c == '-'

/-- The characters that a text may hold at all. -/
def isAllowed (c : Char) : Bool :=
  c == '\t' || c == '\n' || c == '\r' || (' ' ≤ c && c ≤ '~') || c == '\u0085'
    || ('\u00a0' ≤ c && c.toNat ≤ 0xD7FF) || (0xE000 ≤ c.toNat && c.toNat ≤ 0xFFFD)
    || 0x10000 ≤ c.toNat

/-- A place in a text. -/
structure Cursor where
  rest : List Char
  index : Nat
  line : Nat
  column : Nat

namespace Cursor

/-- The start of a text. -/
def start (text : List Char) : Cursor := ⟨text, 0, 0, 0⟩

/-- The character `k` places ahead. -/
def ahead (c : Cursor) (k : Nat) : Char := (c.rest.drop k).headD endMark

/-- The next character. -/
def here (c : Cursor) : Char := c.rest.headD endMark

/-- Passes over `n` characters of the line. -/
def skip (c : Cursor) (n : Nat) : Cursor :=
  { c with rest := c.rest.drop n, index := c.index + n, column := c.column + n }

/-- Takes the characters of the line that satisfy `p`. -/
def takeWhile (c : Cursor) (p : Char → Bool) : List Char × Cursor :=
  let taken := c.rest.takeWhile p
  (taken, c.skip taken.length)

/-- Passes over the characters of the line that satisfy `p`. -/
def skipWhile (c : Cursor) (p : Char → Bool) : Cursor := (c.takeWhile p).2

/-- Takes a line break, if one is here; all but the Unicode separators read as a line feed. -/
def takeBreak (c : Cursor) : List Char × Cursor :=
  let next (rest : List Char) (n : Nat) : Cursor := ⟨rest, c.index + n, c.line + 1, 0⟩
  match c.rest with
  | '\r' :: '\n' :: rest => (['\n'], next rest 2)
  | b :: rest =>
    if b == '\u2028' || b == '\u2029' then ([b], next rest 1)
    else if isBreak b then (['\n'], next rest 1)
    else ([], c)
  | [] => ([], c)

/-- Passes over a line break, if one is here. -/
def skipBreak (c : Cursor) : Cursor := c.takeBreak.2

/-- Passes over a comment, up to the end of the line. -/
def skipComment (c : Cursor) : Cursor :=
  if c.here == '#' then c.skipWhile fun ch => !isBreakOrEnd ch else c

/-- Passes over blanks, a comment and the line break after them; none when something else is left
on the line. -/
def endLine? (c : Cursor) : Option Cursor :=
  let c := (c.skipWhile isBlank).skipComment
  if isBreakOrEnd c.here then some c.skipBreak else none

/-- Whether a marker of three characters stands alone at the start of this line. -/
def atMarker (c : Cursor) (mark : Char) : Bool :=
  c.column == 0 && c.here == mark && c.ahead 1 == mark && c.ahead 2 == mark && isGap (c.ahead 3)

/-- Whether a document starts or ends here. -/
def atDocumentMarker (c : Cursor) : Bool := c.atMarker '-' || c.atMarker '.'

end Cursor

/-- The blanks between two words of a scalar: spaces within a line, or line breaks. -/
structure Gap where
  spaces : List Char
  first : List Char
  further : List Char
  broken : Bool

namespace Gap

/-- No gap. -/
def none : Gap := ⟨[], [], [], false⟩

/-- What a gap contributes to a scalar: a single line break folds into a space, of several the
first is dropped. -/
def text (g : Gap) : List Char :=
  if g.broken then
    if g.first == ['\n'] then (if g.further.isEmpty then [' '] else g.further)
    else g.first ++ g.further
  else g.spaces

/-- Reads the gap at a cursor, after the start `g` of it. A tab may not stand left of the column
`least` after a line break. -/
def read (least : Nat) : Nat → Gap → Cursor → Option (Gap × Cursor)
  | 0, _, _ => Option.none
  | fuel + 1, g, c =>
    if isBlank c.here then
      if g.broken && c.column < least && c.here == '\t' then Option.none
      else if g.broken then read least fuel g (c.skip 1)
      else read least fuel { g with spaces := g.spaces ++ [c.here] } (c.skip 1)
    else if isBreak c.here then
      let (b, c) := c.takeBreak
      if g.broken then read least fuel { g with further := g.further ++ b } c
      else read least fuel { g with spaces := [], first := b, broken := true } c
    else some (g, c)

end Gap

end Reconcile.Yaml
