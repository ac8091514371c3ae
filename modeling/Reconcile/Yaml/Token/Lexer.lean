import Reconcile.Yaml.Token.Property
import Reconcile.Yaml.Token.Scalar

/-!
# Tokens of a YAML text

`Token.ofText?` splits a text into tokens. Block structure is made from indentation: a deeper
column opens a block, a column further left closes the blocks beyond it. A mapping key without a
sign of its own is found by the colon after it, so the place of everything that may turn out to be
a key is kept until the line ends or 1024 characters have passed.
-/

namespace Reconcile.Yaml.Token

/-- A place that turns out to be a key if a colon follows in time. -/
structure Candidate where
  required : Bool
  position : Nat
  mark : Cursor

/-- What the splitter knows on the way. -/
structure Lexer where
  cursor : Cursor
  tokens : Array Token
  /-- A possible key for each level of flow collections, the innermost first. -/
  candidates : List (Option Candidate)
  /-- The columns of the open blocks; there is none at -1. -/
  indent : Int
  outer : List Int
  keyAllowed : Bool

namespace Lexer

/-- The start of a text. -/
def start (text : List Char) : Lexer :=
  { cursor := .start text, tokens := #[], candidates := [none], indent := -1, outer := [], keyAllowed := true }

/-- Whether the cursor is in a flow collection. -/
def inFlow (s : Lexer) : Bool := s.candidates.length > 1

/-- Adds a token. -/
def push (s : Lexer) (t : Token) : Lexer := { s with tokens := s.tokens.push t }

/-- Opens a block at a column, its start token going to the given place. -/
def openBlock (s : Lexer) (column : Nat) (position : Nat) (t : Token) : Lexer :=
  if !s.inFlow && s.indent < column then
    { s with
      tokens := s.tokens.insertIdxIfInBounds position t
      indent := column, outer := s.indent :: s.outer }
  else s

/-- Closes the open blocks right of a column. -/
def closeBlocksTo (column : Int) : List Int → Lexer → Lexer
  | [], s => s
  | i :: outer, s =>
    if s.indent > column then closeBlocksTo column outer { s.push .blockEnd with indent := i, outer := outer }
    else s

/-- Closes the open blocks right of a column; a flow collection ignores columns. -/
def closeBlocks (s : Lexer) (column : Int) : Lexer :=
  if s.inFlow then s else closeBlocksTo column s.outer s

/-- Gives up the possible key of this level; one that had to be a key is an error. -/
def dropCandidate (s : Lexer) : Option Lexer :=
  match s.candidates with
  | some candidate :: rest => if candidate.required then none else some { s with candidates := none :: rest }
  | _ => some s

/-- Remembers this place as a possible key, if one may stand here. -/
def noteCandidate (s : Lexer) : Option Lexer :=
  if s.keyAllowed then do
    let s ← s.dropCandidate
    let candidate : Candidate :=
      { required := !s.inFlow && s.indent == s.cursor.column
        position := s.tokens.size, mark := s.cursor }
    some { s with candidates := some candidate :: s.candidates.drop 1 }
  else some s

/-- Gives up the possible keys that the cursor has left behind. -/
def dropStale (s : Lexer) : Option Lexer := do
  let candidates ← s.candidates.mapM fun candidate =>
    match candidate with
    | none => some none
    | some k =>
      if k.mark.line < s.cursor.line || k.mark.index + 1024 < s.cursor.index then
        (if k.required then none else some none)
      else some (some k)
  some { s with candidates }

/-- Passes over blanks, comments and line breaks. A tab may not stand where a key may. -/
def skipGap : Nat → Lexer → Lexer
  | 0, s => s
  | fuel + 1, s =>
    let c := if s.cursor.index == 0 && s.cursor.here == '\uFEFF' then s.cursor.skip 1 else s.cursor
    let c := c.skipWhile fun ch => ch == ' ' || ((s.inFlow || !s.keyAllowed) && ch == '\t')
    let c := c.skipComment
    if isBreak c.here then
      skipGap fuel { s with cursor := c.skipBreak, keyAllowed := s.keyAllowed || !s.inFlow }
    else { s with cursor := c }

/-- Adds a token of `n` characters at the cursor. -/
def take (s : Lexer) (n : Nat) (t : Token) : Lexer := { s.push t with cursor := s.cursor.skip n }

/-- A directive, or the marker of a document's start or end. -/
def atLineStart (s : Lexer) (read : Cursor → Option (Token × Cursor)) : Option Lexer := do
  let s ← (s.closeBlocks (-1)).dropCandidate
  let (t, c) ← read s.cursor
  some { s.push t with cursor := c, keyAllowed := false }

/-- The opening bracket of a flow collection. -/
def openFlow (s : Lexer) (t : Token) : Option Lexer := do
  let s ← s.noteCandidate
  some { s.take 1 t with candidates := none :: s.candidates, keyAllowed := true }

/-- The closing bracket of a flow collection. -/
def closeFlow (s : Lexer) (t : Token) : Option Lexer := do
  let s ← s.dropCandidate
  let candidates := if s.inFlow then s.candidates.drop 1 else s.candidates
  some { s.take 1 t with candidates, keyAllowed := false }

/-- The comma of a flow collection. -/
def flowComma (s : Lexer) : Option Lexer := do
  let s ← s.dropCandidate
  some { s.take 1 .flowEntry with keyAllowed := true }

/-- Opens a block where the cursor is, unless in a flow collection; a line must be at its start. -/
def openBlockHere (s : Lexer) (t : Token) : Option Lexer :=
  if s.inFlow then some s
  else if s.keyAllowed then some (s.openBlock s.cursor.column s.tokens.size t)
  else none

/-- The dash before an item. -/
def dash (s : Lexer) : Option Lexer := do
  let s ← (← s.openBlockHere .blockSequenceStart).dropCandidate
  some { s.take 1 .blockEntry with keyAllowed := true }

/-- The question mark before a key. -/
def questionMark (s : Lexer) : Option Lexer := do
  let s ← (← s.openBlockHere .blockMappingStart).dropCandidate
  some { s.take 1 .key with keyAllowed := !s.inFlow }

/-- The colon before a value. It makes a possible key one, or follows a key with a sign. -/
def colon (s : Lexer) : Option Lexer :=
  match s.candidates with
  | some k :: rest =>
    let s := { s with tokens := s.tokens.insertIdxIfInBounds k.position .key }
    let s := s.openBlock k.mark.column k.position .blockMappingStart
    some { s.take 1 .value with candidates := none :: rest, keyAllowed := false }
  | _ => do
    let s ← s.openBlockHere .blockMappingStart
    some { s.take 1 .value with keyAllowed := !s.inFlow }

/-- A token that may be a key. -/
def keyToken (s : Lexer) (read : Cursor → Option (Token × Cursor)) : Option Lexer := do
  let s ← s.noteCandidate
  let (t, c) ← read s.cursor
  some { s.push t with cursor := c, keyAllowed := false }

/-- A block scalar. -/
def blockScalar (s : Lexer) : Option Lexer := do
  let s ← s.dropCandidate
  let (text, c) ← Scalar.block s.indent s.cursor
  let style := if s.cursor.here == '|' then ScalarStyle.literal else .folded
  some { s.push (.scalar style (String.ofList text)) with cursor := c, keyAllowed := true }

/-- A plain scalar; behind a line break, a key may follow. -/
def plainScalar (s : Lexer) : Option Lexer := do
  let s ← s.noteCandidate
  let (text, broken, c) ← Scalar.plain s.inFlow (s.indent + 1).toNat s.cursor
  some { s.push (.scalar .plain (String.ofList text)) with cursor := c, keyAllowed := broken }

/-- Whether a plain scalar may start at the cursor. -/
def startsPlain (s : Lexer) : Bool :=
  let c := s.cursor.here
  let next := s.cursor.ahead 1
  !(isGap c || "-?:,[]\x7b\x7d#&*!|>'\"%@`".toList.contains c)
    || (c == '-' && !isBlank next)
    || (!s.inFlow && (c == '?' || c == ':') && !isGap next)

/-- Reads the token at the cursor, which is not at the end. -/
def token (s : Lexer) : Option Lexer :=
  let c := s.cursor
  let gapAhead := isGap (c.ahead 1)
  if c.column == 0 && c.here == '%' then s.atLineStart Property.directive
  else if c.atMarker '-' then s.atLineStart fun c => some (.documentStart, c.skip 3)
  else if c.atMarker '.' then s.atLineStart fun c => some (.documentEnd, c.skip 3)
  else
    match c.here with
    | '[' => s.openFlow .flowSequenceStart
    | '{' => s.openFlow .flowMappingStart
    | ']' => s.closeFlow .flowSequenceEnd
    | '}' => s.closeFlow .flowMappingEnd
    | ',' => s.flowComma
    | '*' => s.keyToken fun c => (Property.anchorName c).map fun (n, c) => (.alias n, c)
    | '&' => s.keyToken fun c => (Property.anchorName c).map fun (n, c) => (.anchor n, c)
    | '!' => s.keyToken (Property.tag s.inFlow)
    | '\'' | '"' => s.keyToken fun c => (Scalar.quoted c).map fun (t, c) => (.scalar .quoted (String.ofList t), c)
    | ch =>
      if ch == '-' && gapAhead then s.dash
      else if ch == '?' && (s.inFlow || gapAhead) then s.questionMark
      else if ch == ':' && (s.inFlow || gapAhead) then s.colon
      else if (ch == '|' || ch == '>') && !s.inFlow then s.blockScalar
      else if s.startsPlain then s.plainScalar
      else none

/-- Closes everything at the end of the text. -/
def finish (s : Lexer) : Option (Array Token) := do
  let s ← (s.closeBlocks (-1)).dropCandidate
  some s.tokens

/-- Reads tokens up to the end of the text. -/
def run : Nat → Lexer → Option (Array Token)
  | 0, _ => none
  | fuel + 1, s => do
    let s ← (skipGap (s.cursor.rest.length + 1) s).dropStale
    let s := s.closeBlocks s.cursor.column
    if s.cursor.rest.isEmpty then s.finish
    else run fuel (← s.token)

end Lexer

/-- The tokens of a text; none when it holds a character that no text may, or breaks a rule. -/
def ofText? (text : String) : Option (List Token) :=
  let cs := text.toList
  if cs.all isAllowed then (Lexer.run (cs.length + 2) (.start cs)).map Array.toList else none

end Reconcile.Yaml.Token
