import Reconcile.Json.Basic
import Reconcile.Text.Quoted
import Reconcile.Yaml.Cursor
import Reconcile.Yaml.Plain

/-!
# Writing YAML

`Yaml.print` writes a JSON value as a block-style document: members and items on lines of their
own, two spaces a level, sequences in mappings not indented, and only what is empty in brackets.
Lines are never folded. A text stands plain where it cannot be taken for something else, then in
single quotes, then in double quotes; one with a line feed stands as a literal block if it can.
-/

namespace Reconcile.Yaml

/-- How a scalar is to be written. -/
inductive Style where
  | plain | single | double | literal
deriving DecidableEq

/-- What has been written, in reverse, and how the last line stands. -/
structure Page where
  chars : List Char
  column : Nat
  /-- Whether the last thing written was a blank or something that needs none behind it. -/
  afterBlank : Bool
  /-- Whether only indentation and block indicators stand on the line. -/
  inMargin : Bool

namespace Page

/-- An empty page. -/
def blank : Page := ⟨[], 0, true, true⟩

/-- Writes one character of a line. -/
def put (p : Page) (c : Char) : Page := { p with chars := c :: p.chars, column := p.column + 1 }

/-- Ends the line. -/
def newline (p : Page) : Page := { p with chars := '\n' :: p.chars, column := 0 }

/-- Writes a line break of a text: a line feed or one of the other breaks as it is. -/
def putBreak (p : Page) (c : Char) : Page := { p with chars := c :: p.chars, column := 0 }

/-- Writes an indicator, after a space if it needs one. -/
def indicator (p : Page) (text : List Char) (needsBlank isBlank isMargin : Bool) : Page :=
  let p := if needsBlank && !p.afterBlank then p.put ' ' else p
  let p := text.foldl put p
  { p with afterBlank := isBlank, inMargin := p.inMargin && isMargin }

/-- Goes to the given column of a fresh margin. -/
def indent (p : Page) (level : Int) : Page :=
  let column := level.toNat
  let p := if !p.inMargin || p.column > column || (p.column == column && !p.afterBlank) then p.newline else p
  let p := (List.replicate (column - p.column) ' ').foldl put p
  { p with afterBlank := true, inMargin := true }

end Page

/-- Whether a character shows as itself in a scalar that is not in double quotes. -/
def isPrintable (c : Char) : Bool :=
  c == '\n' || (' ' ≤ c && c ≤ '~') || ('\u00a0' ≤ c && c != '\uFEFF' && c.toNat != 0xFFFE && c.toNat != 0xFFFF)

/-- What matters about a text for how it may be written. -/
structure Traits where
  multiline : Bool
  plain : Bool
  single : Bool
  block : Bool

namespace Traits

/-- Characters that may not start a plain scalar. -/
def isLeadIndicator (c : Char) : Bool := "#,[]\x7b\x7d&*!|>'\"%@`".toList.contains c

/-- Whether a character of a text could be read as a sign of its own, seen between its neighbours;
`none` stands for the start and the end of the text. -/
def isIndicator (before : Option Char) (c : Char) (after : Option Char) : Bool :=
  let gapAfter := after.all isGap
  match before with
  | none => isLeadIndicator c || ((c == '?' || c == ':' || c == '-') && gapAfter)
  | some b => (c == ':' && gapAfter) || (c == '#' && isGap b)

/-- Whether some character of a text could be read as a sign of its own. -/
def anyIndicator (before : Option Char) : List Char → Bool
  | [] => false
  | c :: rest => isIndicator before c rest.head? || anyIndicator (some c) rest

/-- Whether some character satisfies `p` and the one after it satisfies `q`. -/
def anyPair (p q : Char → Bool) : List Char → Bool
  | a :: b :: rest => (p a && q b) || anyPair p q (b :: rest)
  | _ => false

/-- Whether a text starts like a document marker. -/
def startsLikeMarker : List Char → Bool
  | a :: b :: c :: _ => (a == '-' && b == '-' && c == '-') || (a == '.' && b == '.' && c == '.')
  | _ => false

/-- The traits of a text. -/
def ofText (cs : List Char) : Traits :=
  let isSpace (c : Char) : Bool := c == ' '
  let edge (p : Char → Bool) (c : Option Char) : Bool := c.any p
  let multiline := cs.any isBreak
  let edgeGap := edge isSpace cs.head? || edge isBreak cs.head? || edge isSpace cs.getLast? || edge isBreak cs.getLast?
  let special := anyPair isSpace isBreak cs || cs.any fun c => !isPrintable c
  let breakSpace := anyPair isBreak isSpace cs
  if cs.isEmpty then ⟨false, true, true, false⟩
  else
    { multiline
      plain :=
        !(edgeGap || breakSpace || special || multiline || startsLikeMarker cs || anyIndicator none cs)
      single := !(breakSpace || special)
      block := !(edge isSpace cs.getLast? || special) }

end Traits

/-- The style that a text asks for: quotes when it could be taken for something else. -/
def wantedStyle (s : String) : Style :=
  if s.toList.contains '\n' then .literal
  else if s == "" || Plain.isNull s || (Plain.bool? s).isSome || Plain.isPadded s.toList then .single
  else
    match Plain.integer s, Plain.float s with
    | .notOne, .notOne => .plain
    | _, _ => .single

/-- The style that a text gets; a key on one line has no block. -/
def grantedStyle (t : Traits) (isEmpty simpleKey : Bool) (wanted : Style) : Style :=
  let style := if simpleKey && t.multiline then .double else wanted
  let style := if style == .plain && (!t.plain || (isEmpty && simpleKey)) then .single else style
  let style := if style == .single && !t.single then .double else style
  if style == .literal && (!t.block || simpleKey) then .double else style

/-- Upper-case hexadecimal digits, at least `n`. -/
def hexDigits (n code : Nat) : List Char :=
  let digits := (Text.hex code).map Char.toUpper
  List.replicate (n - digits.length) '0' ++ digits

/-- A character between double quotes. -/
def doubleQuotedChar (c : Char) : List Char :=
  if isPrintable c && !isBreak c && c != '"' && c != '\\' then [c]
  else
    let letter? : Option Char :=
      match c with
      | '\x00' => some '0'
      | '\x07' => some 'a'
      | '\x08' => some 'b'
      | '\t' => some 't'
      | '\n' => some 'n'
      | '\x0b' => some 'v'
      | '\x0c' => some 'f'
      | '\r' => some 'r'
      | '\x1b' => some 'e'
      | '"' => some '"'
      | '\\' => some '\\'
      | '\u0085' => some 'N'
      | '\u00a0' => some '_'
      | '\u2028' => some 'L'
      | '\u2029' => some 'P'
      | _ => none
    match letter? with
    | some l => ['\\', l]
    | none =>
      if c.toNat ≤ 0xFF then ['\\', 'x'] ++ hexDigits 2 c.toNat
      else if c.toNat ≤ 0xFFFF then ['\\', 'u'] ++ hexDigits 4 c.toNat
      else ['\\', 'U'] ++ hexDigits 8 c.toNat

namespace Page

/-- Writes the characters of a scalar over several lines, each line but the first in the margin of
the given level. -/
def lines (level : Int) (escape : Char → List Char) : Bool → List Char → Page → Page
  | _, [], p => p
  | afterBreak, c :: rest, p =>
    if isBreak c then lines level escape true rest { p.putBreak c with inMargin := true }
    else
      let p := if afterBreak then p.indent level else p
      let p := (escape c).foldl put p
      lines level escape false rest { p with inMargin := false }

/-- A plain scalar. -/
def plainScalar (p : Page) (cs : List Char) : Page :=
  let p := if !p.afterBlank && !cs.isEmpty then p.put ' ' else p
  { cs.foldl put p with afterBlank := false, inMargin := false }

/-- A scalar in single quotes, of which those inside are doubled. -/
def singleScalar (p : Page) (level : Int) (cs : List Char) : Page :=
  let p := p.indicator ['\''] true false false
  let p := lines level (fun c => if c == '\'' then ['\'', '\''] else [c]) false cs p
  let p := if cs.getLast?.any isBreak then p.indent level else p
  { p.indicator ['\''] false false false with afterBlank := false, inMargin := false }

/-- A scalar in double quotes. -/
def doubleScalar (p : Page) (cs : List Char) : Page :=
  let p := p.indicator ['"'] true false false
  let p := (cs.flatMap doubleQuotedChar).foldl put p
  { p.indicator ['"'] false false false with afterBlank := false, inMargin := false }

/-- The signs behind the bar of a literal block: the indentation if the text starts with a blank,
and what happens to the line breaks at its end. -/
def literalHints (cs : List Char) : List Char :=
  let indentation := if cs.head?.any fun c => c == ' ' || isBreak c then ['2'] else []
  let chomping :=
    match cs.reverse with
    | [] => ['-']
    | [c] => if isBreak c then ['+'] else ['-']
    | c :: d :: _ => if !isBreak c then ['-'] else if isBreak d then ['+'] else []
  indentation ++ chomping

/-- A literal block. -/
def literalScalar (p : Page) (level : Int) (cs : List Char) : Page :=
  let p := p.indicator ['|'] true false false
  let p := p.indicator (literalHints cs) false false false
  let p := { p.newline with afterBlank := true, inMargin := true }
  lines level (fun c => [c]) true cs p

/-- A text in the style it gets. -/
def textScalar (p : Page) (level : Int) (simpleKey : Bool) (s : String) : Page :=
  let cs := s.toList
  match grantedStyle (.ofText cs) cs.isEmpty simpleKey (wantedStyle s) with
  | .plain => p.plainScalar cs
  | .single => p.singleScalar level cs
  | .double => p.doubleScalar cs
  | .literal => p.literalScalar level cs

end Page

/-- Whether a key stands on the line of its value: it has one line and at most 128 bytes. -/
def isSimpleKey (key : String) : Bool := !(key.toList.any isBreak) && key.utf8ByteSize ≤ 128

/-- The level inside a block: the outermost one starts at the margin. -/
def innerLevel (level : Int) : Int := if level < 0 then 0 else level + 2

/-- The level of the lines of a scalar. -/
def scalarLevel (level : Int) : Int := if level < 0 then 2 else level + 2

mutual

/-- Writes a value; `inMapping` says whether it is the value of a key. -/
def printValue (level : Int) (inMapping : Bool) : Json → Page → Page
  | .array [], p => (p.indicator ['['] true true false).indicator [']'] false false false
  | .object [], p => (p.indicator ['\x7b'] true true false).indicator ['\x7d'] false false false
  | .array (v :: rest), p =>
    let inner := if inMapping && !p.inMargin && 0 ≤ level then level else innerLevel level
    printItems inner (v :: rest) p
  | .object (m :: rest), p => printFields (innerLevel level) (m :: rest) p
  | .null, p => p.plainScalar "null".toList
  | .bool b, p => p.plainScalar (if b then "true" else "false").toList
  | .number n, p => p.plainScalar n.text.toList
  | .string s, p => p.textScalar (scalarLevel level) false s

/-- Writes the items of a sequence, each behind a dash. -/
def printItems (level : Int) : List Json → Page → Page
  | [], p => p
  | v :: rest, p =>
    printItems level rest (printValue level false v ((p.indent level).indicator ['-'] true false true))

/-- Writes the members of a mapping, each on a line of its own. -/
def printFields (level : Int) : List (String × Json) → Page → Page
  | [], p => p
  | (k, v) :: rest, p =>
    let p := p.indent level
    let p :=
      if isSimpleKey k then (p.textScalar (scalarLevel level) true k).indicator [':'] false false false
      else
        let p := (p.indicator ['?'] true false true).textScalar (scalarLevel level) false k
        (p.indent level).indicator [':'] true false true
    printFields level rest (printValue level true v p)

end

/-- The text of a document with this value. -/
def print (v : Json) : String := String.ofList ((printValue (-1) false v .blank).indent 0).chars.reverse

end Reconcile.Yaml
