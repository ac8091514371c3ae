import Reconcile.Yaml.Cursor

/-!
# Scalars in YAML text

How the four styles of scalars are read: plain, single-quoted and double-quoted ones, whose line
breaks fold, and block scalars, literal or folded. Each reader takes the cursor at the first
character of the scalar and gives its text and the cursor behind it.
-/

namespace Reconcile.Yaml.Scalar

/-- The value of a hexadecimal digit. -/
def hexDigit? (c : Char) : Option Nat :=
  if c.isDigit then some (c.toNat - '0'.toNat)
  else if 'a' ≤ c ∧ c ≤ 'f' then some (c.toNat - 'a'.toNat + 10)
  else if 'A' ≤ c ∧ c ≤ 'F' then some (c.toNat - 'A'.toNat + 10)
  else none

/-- The character whose code is written in `n` hexadecimal digits at a cursor. -/
def hexChar? (n : Nat) (c : Cursor) : Option (Char × Cursor) := do
  let digits := c.rest.take n
  if digits.length < n then none
  else
    let code ← digits.foldlM (fun code d => (code * 16 + ·) <$> hexDigit? d) 0
    if (0xD800 ≤ code ∧ code ≤ 0xDFFF) ∨ 0x10FFFF < code then none
    else some (Char.ofNat code, c.skip n)

/-- The character that a backslash and the letter at a cursor stand for. -/
def escape? (c : Cursor) : Option (Char × Cursor) :=
  let one (ch : Char) : Option (Char × Cursor) := some (ch, c.skip 1)
  match c.here with
  | '0' => one '\x00'
  | 'a' => one '\x07'
  | 'b' => one '\x08'
  | 't' | '\t' => one '\t'
  | 'n' => one '\n'
  | 'v' => one '\x0b'
  | 'f' => one '\x0c'
  | 'r' => one '\r'
  | 'e' => one '\x1b'
  | ' ' => one ' '
  | '"' => one '"'
  | '/' => one '/'
  | '\\' => one '\\'
  | 'N' => one '\u0085'
  | '_' => one '\u00a0'
  | 'L' => one '\u2028'
  | 'P' => one '\u2029'
  | 'x' => hexChar? 2 (c.skip 1)
  | 'u' => hexChar? 4 (c.skip 1)
  | 'U' => hexChar? 8 (c.skip 1)
  | _ => none

/-- Reads a quoted scalar behind its opening quote; `read` holds its text so far, in reverse. -/
def quotedFrom (quote : Char) : Nat → List Char → Cursor → Option (List Char × Cursor)
  | 0, _, _ => none
  | fuel + 1, read, c =>
    if c.atDocumentMarker then none
    else
      match c.rest with
      | [] => none
      | ch :: _ =>
        if isBlank ch || isBreak ch then do
          let (gap, c) ← Gap.read 0 (c.rest.length + 1) .none c
          quotedFrom quote fuel (gap.text.reverse ++ read) c
        else if ch == quote then
          if quote == '\'' && c.ahead 1 == '\'' then quotedFrom quote fuel ('\'' :: read) (c.skip 2)
          else some (read.reverse, c.skip 1)
        else if ch == '\\' && quote == '"' then
          if isBreak (c.ahead 1) then do
            let c := (c.skip 1).skipBreak
            let (gap, c) ← Gap.read 0 (c.rest.length + 1) { Gap.none with broken := true } c
            quotedFrom quote fuel (gap.text.reverse ++ read) c
          else do
            let (escaped, c) ← escape? (c.skip 1)
            quotedFrom quote fuel (escaped :: read) c
        else quotedFrom quote fuel (ch :: read) (c.skip 1)

/-- Reads a quoted scalar from its opening quote on. -/
def quoted (c : Cursor) : Option (List Char × Cursor) :=
  quotedFrom c.here (c.rest.length + 1) [] (c.skip 1)

/-- The brackets and the comma of flow collections. -/
def isFlowIndicator (c : Char) : Bool := c == ',' || c == '[' || c == ']' || c == '{' || c == '}'

/-- Whether a plain scalar ends before the character at a cursor. -/
def endsPlain (inFlow : Bool) (c : Cursor) : Bool :=
  isGap c.here || (c.here == ':' && isGap (c.ahead 1)) || (inFlow && isFlowIndicator c.here)

/-- Whether a colon stands before a flow indicator, where it has no meaning. -/
def isLostColon (inFlow : Bool) (c : Cursor) : Bool :=
  inFlow && c.here == ':' && (isFlowIndicator (c.ahead 1) || c.ahead 1 == '?')

/-- Reads the words of a plain scalar that may not stand left of the column `least`; `read` holds
its text so far, in reverse, and `gap` the gap before the cursor. The result says also whether a
line break came last. -/
def plainFrom (inFlow : Bool) (least : Nat) :
    Nat → List Char → Gap → Cursor → Option (List Char × Bool × Cursor)
  | 0, _, _, _ => none
  | fuel + 1, read, gap, c =>
    let finish := some (read.reverse, gap.broken, c)
    if isBlank c.here || isBreak c.here then do
      let (gap, c) ← Gap.read least (c.rest.length + 1) .none c
      if c.atDocumentMarker || c.here == '#' || (!inFlow && c.column < least) then
        some (read.reverse, gap.broken, c)
      else plainFrom inFlow least fuel read gap c
    else if isLostColon inFlow c then none
    else if endsPlain inFlow c then finish
    else plainFrom inFlow least fuel (c.here :: gap.text.reverse ++ read) .none (c.skip 1)

/-- Reads a plain scalar. -/
def plain (inFlow : Bool) (least : Nat) (c : Cursor) : Option (List Char × Bool × Cursor) :=
  plainFrom inFlow least (c.rest.length + 1) [] .none c

/-- What happens to the line breaks at the end of a block scalar. -/
inductive Chomping where
  | strip | clip | keep
deriving DecidableEq

/-- The chomping that an indicator asks for. -/
def chomping? (c : Char) : Option Chomping :=
  if c == '+' then some .keep else if c == '-' then some .strip else none

/-- The indentation that a digit asks for; zero is refused. -/
def increment? (c : Cursor) : Option (Option Nat × Cursor) :=
  if c.here.isDigit then
    if c.here == '0' then none else some (some (c.here.toNat - '0'.toNat), c.skip 1)
  else some (none, c)

/-- The chomping and the indentation in a block scalar's header, in either order. -/
def blockHeader (c : Cursor) : Option (Chomping × Option Nat × Cursor) := do
  match chomping? c.here with
  | some chomping =>
    let (increment, c) ← increment? (c.skip 1)
    some (chomping, increment, c)
  | none =>
    let (increment, c) ← increment? c
    match increment, chomping? c.here with
    | some _, some chomping => some (chomping, increment, c.skip 1)
    | _, _ => some (.clip, increment, c)

/-- Passes over the indentation and the empty lines before a line of a block scalar, of which no
indentation may be known yet. Gives the line breaks and the greatest column seen. -/
def blockBreaks (indent : Option Nat) :
    Nat → Nat → List Char → Cursor → Option (List Char × Nat × Cursor)
  | 0, _, _, _ => none
  | fuel + 1, widest, breaks, c =>
    let room := match indent with
      | none => c.rest.length
      | some n => n - c.column
    let spaces := ((c.rest.take room).takeWhile (· == ' ')).length
    let c := c.skip spaces
    let widest := max widest c.column
    if indent.all (c.column < ·) && c.here == '\t' then none
    else if isBreak c.here then
      let (b, c) := c.takeBreak
      blockBreaks indent fuel widest (breaks ++ b) c
    else some (breaks, widest, c)

/-- Reads the lines of a block scalar. `text` is what was read in reverse, `lead` the line break of
the last line, `breaks` the empty lines after it, and `wasBlank` says whether that line started
with a blank. -/
def blockLines (literal : Bool) (indent : Nat) :
    Nat → List Char → List Char → List Char → Bool → Cursor →
      Option (List Char × List Char × List Char × Cursor)
  | 0, _, _, _, _, _ => none
  | fuel + 1, text, lead, breaks, wasBlank, c =>
    if c.column == indent && c.here != endMark then do
      let blank := isBlank c.here
      let joint :=
        if !literal && lead == ['\n'] && !wasBlank && !blank then
          (if breaks.isEmpty then [' '] else breaks)
        else lead ++ breaks
      let (line, c) := c.takeWhile fun ch => !isBreakOrEnd ch
      let (lead, c) := c.takeBreak
      let (breaks, _, c) ← blockBreaks (some indent) (c.rest.length + 1) 0 [] c
      blockLines literal indent fuel (line.reverse ++ joint.reverse ++ text) lead breaks blank c
    else some (text.reverse, lead, breaks, c)

/-- Reads a block scalar from its indicator on, inside a block that is indented by `outer`. -/
def block (outer : Int) (c : Cursor) : Option (List Char × Cursor) := do
  let literal := c.here == '|'
  let (chomping, increment, c) ← blockHeader (c.skip 1)
  let c ← c.endLine?
  let given := increment.map fun n => (max outer 0).toNat + n
  let (breaks, widest, c) ← blockBreaks given (c.rest.length + 1) 0 [] c
  let indent := given.getD (max (max widest (outer + 1).toNat) 1)
  let (text, lead, breaks, c) ← blockLines literal indent (c.rest.length + 1) [] [] breaks false c
  let tail :=
    match chomping with
    | .strip => []
    | .clip => lead
    | .keep => lead ++ breaks
  some (text ++ tail, c)

end Reconcile.Yaml.Scalar
