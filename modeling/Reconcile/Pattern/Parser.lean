import Reconcile.Pattern.Basic
import Reconcile.Text.Blank

/-!
# Pattern text

Reads patterns as they are written in schemas: alternatives between bars, groups in round brackets,
sets in square ones, counts after what they repeat, and flags in a group that begins with a
question mark. The short classes for digits, words and blanks are given by the caller, because
schemas read them in two ways. Text that is no pattern is refused.
-/

namespace Reconcile.Pattern

/-- What the short classes stand for. -/
structure ClassNames where
  digit : CharSet
  word : CharSet
  blank : CharSet

/-- The ASCII digits. -/
def asciiDigits : CharSet := .spans [(0x30, 0x39)]

/-- Short classes of a fixed list of characters each. -/
def ClassNames.listed : ClassNames where
  digit := asciiDigits
  word := .spans wordSpans
  blank := .spans [(0x9, 0xd), (0x20, 0x20), (0xa0, 0xa0), (0x2003, 0x2003), (0x2029, 0x2029),
    (0xfeff, 0xfeff)]

/-- Short classes where blanks are all white space. -/
def ClassNames.broad : ClassNames where
  digit := asciiDigits
  word := .spans wordSpans
  blank := .spans Text.blanks

/-- How the text of a pattern is to be understood. -/
structure Flags where
  ignoreCase : Bool := false
  /-- Whether the anchors also hold at line breaks. -/
  lines : Bool := false
  /-- Whether the point also matches a line break. -/
  pointMatchesAll : Bool := false

/-- The set of one character. -/
def single (c : Char) : CharSet := .spans [(c.toNat, c.toNat)]

/-- The same ASCII letters in the other case. -/
def otherCase (spans : Spans) : Spans :=
  spans.flatMap fun (a, b) =>
    let shifted (lo hi : Nat) (shift : Nat → Nat) : Spans :=
      let a := max a lo
      let b := min b hi
      if a ≤ b then [(shift a, shift b)] else []
    shifted 0x41 0x5a (· + 32) ++ shifted 0x61 0x7a (· - 32)

/-- The set as flags ask for it. -/
def Flags.spans (flags : Flags) (spans : Spans) : CharSet :=
  .spans (if flags.ignoreCase then spans ++ otherCase spans else spans)

/-- The value of a hexadecimal digit. -/
def hexDigit? (c : Char) : Option Nat :=
  if c.isDigit then some (c.toNat - 48)
  else if 'a' ≤ c ∧ c ≤ 'f' then some (c.toNat - 87)
  else if 'A' ≤ c ∧ c ≤ 'F' then some (c.toNat - 55)
  else none

/-- Reads hexadecimal digits, all of them, as a character. -/
def hexChar? (digits : List Char) : Option Char := do
  let values ← digits.mapM hexDigit?
  let n := values.foldl (fun n d => 16 * n + d) 0
  if digits.isEmpty then none else if h : n.isValidChar then some (Char.ofNatAux n h) else none

/-- Reads a character by its code point: digits in braces, or a fixed number of them. -/
def readCodePoint (count : Nat) : List Char → Option (Char × List Char)
  | '\x7b' :: rest => do
    let c ← hexChar? (rest.takeWhile (· != '\x7d'))
    match rest.dropWhile (· != '\x7d') with
    | _ :: rest => some (c, rest)
    | [] => none
  | cs => do
    let digits := cs.take count
    if digits.length = count then return (← hexChar? digits, cs.drop count) else none

/-- What a backslash introduces: a character, or a set. -/
inductive Escape where
  | char (c : Char)
  | set (s : CharSet)

/-- Reads what follows a backslash, where that is a character or a set. -/
def readEscape (names : ClassNames) : List Char → Option (Escape × List Char)
  | 'd' :: rest => some (.set names.digit, rest)
  | 'D' :: rest => some (.set (.not names.digit), rest)
  | 'w' :: rest => some (.set names.word, rest)
  | 'W' :: rest => some (.set (.not names.word), rest)
  | 's' :: rest => some (.set names.blank, rest)
  | 'S' :: rest => some (.set (.not names.blank), rest)
  | 'h' :: rest => some (.set (.spans [(0x30, 0x39), (0x41, 0x46), (0x61, 0x66)]), rest)
  | 'H' :: rest => some (.set (.not (.spans [(0x30, 0x39), (0x41, 0x46), (0x61, 0x66)])), rest)
  | 'n' :: rest => some (.char '\n', rest)
  | 'r' :: rest => some (.char '\r', rest)
  | 't' :: rest => some (.char '\t', rest)
  | 'f' :: rest => some (.char '\x0c', rest)
  | 'v' :: rest => some (.char '\x0b', rest)
  | 'a' :: rest => some (.char '\x07', rest)
  | 'e' :: rest => some (.char '\x1b', rest)
  | 'x' :: rest => (readCodePoint 2 rest).map fun (c, rest) => (.char c, rest)
  | 'u' :: rest => (readCodePoint 4 rest).map fun (c, rest) => (.char c, rest)
  | 'U' :: rest => (readCodePoint 8 rest).map fun (c, rest) => (.char c, rest)
  | c :: rest => if ' ' ≤ c ∧ c ≤ '~' ∧ !c.isAlphanum then some (.char c, rest) else none
  | [] => none

/-- The classes that have a name within square brackets. -/
def namedSpans (name : String) : Option Spans :=
  match name with
  | "alnum" => some [(0x30, 0x39), (0x41, 0x5a), (0x61, 0x7a)]
  | "alpha" => some [(0x41, 0x5a), (0x61, 0x7a)]
  | "ascii" => some [(0, 0x7f)]
  | "blank" => some [(0x9, 0x9), (0x20, 0x20)]
  | "cntrl" => some [(0, 0x1f), (0x7f, 0x7f)]
  | "digit" => some [(0x30, 0x39)]
  | "graph" => some [(0x21, 0x7e)]
  | "lower" => some [(0x61, 0x7a)]
  | "print" => some [(0x20, 0x7e)]
  | "punct" => some [(0x21, 0x2f), (0x3a, 0x40), (0x5b, 0x60), (0x7b, 0x7e)]
  | "space" => some [(0x9, 0xd), (0x20, 0x20)]
  | "upper" => some [(0x41, 0x5a)]
  | "word" => some wordSpans
  | "xdigit" => some [(0x30, 0x39), (0x41, 0x46), (0x61, 0x66)]
  | _ => none

/-- Reads a named class such as `[:alpha:]`, from behind its first bracket. -/
def readNamed : List Char → Option (CharSet × List Char)
  | ':' :: rest =>
    let (inverted, rest) := match rest with
      | '^' :: rest => (true, rest)
      | _ => (false, rest)
    let name := rest.takeWhile Char.isAlpha
    match rest.dropWhile Char.isAlpha with
    | ':' :: ']' :: rest =>
      (namedSpans (String.ofList name)).map fun spans =>
        (if inverted then .not (.spans spans) else .spans spans, rest)
    | _ => none
  | _ => none

/-- Reads one character or short class of a set. -/
def readSetItem (names : ClassNames) : List Char → Option (Escape × List Char)
  | '\\' :: rest => readEscape names rest
  | c :: rest => some (.char c, rest)
  | [] => none

mutual

/-- Reads a set from behind its opening bracket. -/
def readSet (names : ClassNames) (flags : Flags) : Nat → List Char → Option (CharSet × List Char)
  | 0, _ => none
  | fuel + 1, cs => do
    let (inverted, cs) := match cs with
      | '^' :: rest => (true, rest)
      | _ => (false, cs)
    -- dashes and a closing bracket at the start stand for themselves
    let dashes := cs.takeWhile (· == '-')
    let rest := cs.dropWhile (· == '-')
    let found := if dashes.isEmpty then CharSet.spans [] else single '-'
    let (found, rest) := match dashes, rest with
      | [], ']' :: rest => (.union found (single ']'), rest)
      | _, _ => (found, rest)
    let (set, rest) ← readSetItems names flags fuel found rest
    return (if inverted then .not set else set, rest)

/-- Reads the items of a set up to its closing bracket. -/
def readSetItems (names : ClassNames) (flags : Flags) :
    Nat → CharSet → List Char → Option (CharSet × List Char)
  | 0, _, _ => none
  | fuel + 1, found, cs =>
    match cs with
    | [] => none
    | ']' :: rest => some (found, rest)
    | '&' :: '&' :: rest => do
      let (other, rest) ← readSetItems names flags fuel (.spans []) rest
      return (.inter found other, rest)
    | '-' :: '-' :: rest => do
      let (other, rest) ← readSetItems names flags fuel (.spans []) rest
      return (.inter found (.not other), rest)
    | '[' :: rest =>
      match readNamed rest with
      | some (set, rest) => readSetItems names flags fuel (.union found set) rest
      | none => do
        let (set, rest) ← readSet names flags fuel rest
        readSetItems names flags fuel (.union found set) rest
    | cs => do
      let (item, rest) ← readSetItem names cs
      match item, rest with
      | .set s, rest => readSetItems names flags fuel (.union found s) rest
      | .char c, '-' :: ']' :: _ => readSetItems names flags fuel (.union found (flags.spans [(c.toNat, c.toNat)])) rest
      | .char c, '-' :: '-' :: _ => readSetItems names flags fuel (.union found (flags.spans [(c.toNat, c.toNat)])) rest
      | .char c, '-' :: rest => do
        let (last, rest) ← readSetItem names rest
        match last with
        | .char d =>
          if c ≤ d then readSetItems names flags fuel (.union found (flags.spans [(c.toNat, d.toNat)])) rest
          else none
        | .set _ => none
      | .char c, rest => readSetItems names flags fuel (.union found (flags.spans [(c.toNat, c.toNat)])) rest

end

/-- Reads a count such as `{2,5}` from behind its opening brace. -/
def readCount (cs : List Char) : Option ((Nat × Option Nat) × List Char) :=
  let number (digits : List Char) : Nat := digits.foldl (fun n c => 10 * n + (c.toNat - 48)) 0
  let first := cs.takeWhile Char.isDigit
  match cs.dropWhile Char.isDigit with
  | '\x7d' :: rest => if first.isEmpty then none else some ((number first, some (number first)), rest)
  | ',' :: rest =>
    let last := rest.takeWhile Char.isDigit
    match rest.dropWhile Char.isDigit with
    | '\x7d' :: rest =>
      if first.isEmpty ∧ last.isEmpty then none
      else if last.isEmpty then some ((number first, none), rest)
      else if number last < number first then none
      else some ((number first, some (number last)), rest)
    | _ => none
  | _ => none

/-- Reads how often something is to be repeated. -/
def readRepeat : List Char → Option ((Nat × Option Nat) × List Char)
  | '?' :: rest => some ((0, some 1), rest)
  | '*' :: rest => some ((0, none), rest)
  | '+' :: rest => some ((1, none), rest)
  | '\x7b' :: rest => readCount rest
  | _ => none

/-- Whether something can be repeated. -/
def isRepeatable : Pattern → Bool
  | .empty | .place _ | .ahead .. | .behind .. => false
  | _ => true

/-- Reads flags up to the end of their group or to a colon. -/
def readFlags (on : Bool) (flags : Flags) : List Char → Option (Flags × List Char)
  | 'i' :: rest => readFlags on { flags with ignoreCase := on } rest
  | 'm' :: rest => readFlags on { flags with lines := on } rest
  | 's' :: rest => readFlags on { flags with pointMatchesAll := on } rest
  | 'u' :: rest | 'U' :: rest => readFlags on flags rest
  | '-' :: rest => if on then readFlags false flags rest else none
  | cs => some (flags, cs)

/-- What follows the opening bracket of a group. -/
inductive GroupKind where
  | plain (flags : Flags)
  | ahead (wanted : Bool)
  | behind (wanted : Bool)
  /-- Flags for the rest of the group around. -/
  | flagsOnly (flags : Flags)

/-- Reads what kind of group follows an opening bracket. -/
def readGroupKind (flags : Flags) : List Char → Option (GroupKind × List Char)
  | '?' :: ':' :: rest => some (.plain flags, rest)
  | '?' :: '=' :: rest => some (.ahead true, rest)
  | '?' :: '!' :: rest => some (.ahead false, rest)
  | '?' :: '<' :: '=' :: rest => some (.behind true, rest)
  | '?' :: '<' :: '!' :: rest => some (.behind false, rest)
  | '?' :: '>' :: rest => some (.plain flags, rest)
  | '?' :: 'P' :: '<' :: rest | '?' :: '<' :: rest =>
    match rest.dropWhile fun c => c.isAlphanum || c == '_' with
    | '>' :: rest => some (.plain flags, rest)
    | _ => none
  | '?' :: rest => do
    match ← readFlags true flags rest with
    | (flags, ':' :: rest) => some (.plain flags, rest)
    | (flags, ')' :: rest) => some (.flagsOnly flags, rest)
    | _ => none
  | cs => some (.plain flags, cs)

/-- Reads a short atom: an anchor, a point, an escape or a character that stands for itself. -/
def readShort (names : ClassNames) (flags : Flags) : List Char → Option (Pattern × List Char)
  | '.' :: rest => some (.char (if flags.pointMatchesAll then .not (.spans []) else .not (single '\n')), rest)
  | '^' :: rest => some (.place (if flags.lines then .lineStart else .textStart), rest)
  | '$' :: rest => some (.place (if flags.lines then .lineEnd else .textEnd), rest)
  | '\\' :: 'b' :: rest => some (.place .wordEdge, rest)
  | '\\' :: 'B' :: rest => some (.place .notWordEdge, rest)
  | '\\' :: 'A' :: rest => some (.place .textStart, rest)
  | '\\' :: 'z' :: rest => some (.place .textEnd, rest)
  | '\\' :: rest =>
    (readEscape names rest).map fun
      | (.char c, rest) => (.char (flags.spans [(c.toNat, c.toNat)]), rest)
      | (.set s, rest) => (.char s, rest)
  | c :: rest => some (.char (flags.spans [(c.toNat, c.toNat)]), rest)
  | [] => none

mutual

/-- Reads alternatives up to a closing bracket or the end. -/
def readAlternatives (names : ClassNames) :
    Nat → Flags → List Char → Option (Pattern × List Char)
  | 0, _, _ => none
  | fuel + 1, flags, cs => do
    let (first, flags, rest) ← readSequence names fuel flags .empty cs
    match rest with
    | '|' :: rest => do
      let (others, rest) ← readAlternatives names fuel flags rest
      return (.alt first others, rest)
    | rest => return (first, rest)

/-- Reads one piece after the other; flags may change on the way. -/
def readSequence (names : ClassNames) :
    Nat → Flags → Pattern → List Char → Option (Pattern × Flags × List Char)
  | 0, _, _, _ => none
  | fuel + 1, flags, before, cs =>
    match cs with
    | [] | '|' :: _ | ')' :: _ => some (before, flags, cs)
    | '(' :: rest => do
      let (kind, rest) ← readGroupKind flags rest
      match kind with
      | .flagsOnly flags => readSequence names fuel flags before rest
      | .plain inner => do
        let (p, rest) ← readGroup names fuel inner rest
        let (p, rest) ← readRepeated p rest
        readSequence names fuel flags (.seq before p) rest
      | .ahead wanted => do
        let (p, rest) ← readGroup names fuel flags rest
        let (p, rest) ← readRepeated (.ahead wanted p) rest
        readSequence names fuel flags (.seq before p) rest
      | .behind wanted => do
        let (p, rest) ← readGroup names fuel flags rest
        let (p, rest) ← readRepeated (.behind wanted p) rest
        readSequence names fuel flags (.seq before p) rest
    | '[' :: rest => do
      let (set, rest) ← readSet names flags (rest.length + 1) rest
      let (p, rest) ← readRepeated (.char set) rest
      readSequence names fuel flags (.seq before p) rest
    | cs => do
      if (readRepeat cs).isSome then none
      else
        let (p, rest) ← readShort names flags cs
        let (p, rest) ← readRepeated p rest
        readSequence names fuel flags (.seq before p) rest

/-- Reads alternatives and the bracket that closes them. -/
def readGroup (names : ClassNames) : Nat → Flags → List Char → Option (Pattern × List Char)
  | 0, _, _ => none
  | fuel + 1, flags, cs => do
    match ← readAlternatives names fuel flags cs with
    | (p, ')' :: rest) => some (p, rest)
    | _ => none

/-- Reads how often the pattern before is to be repeated, if that is said. -/
def readRepeated (p : Pattern) (cs : List Char) : Option (Pattern × List Char) :=
  match readRepeat cs with
  | none => some (p, cs)
  | some ((least, most), rest) =>
    if !isRepeatable p then none
    else
      -- whether a repetition is eager or lazy does not decide whether it matches
      match rest with
      | '?' :: rest | '+' :: rest => some (.times p least most, rest)
      | rest => some (.times p least most, rest)

end

/-- Reads a whole text as a pattern. -/
def parse? (names : ClassNames) (text : String) : Option Pattern := do
  match ← readAlternatives names (3 * text.length + 3) {} text.toList with
  | (p, []) => some p
  | _ => none

end Reconcile.Pattern
