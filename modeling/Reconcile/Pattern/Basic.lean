import Reconcile.Text.Span

/-!
# Patterns

Regular patterns over texts, with anchors and with conditions on what stands before and after. A
pattern is matched by the set of places where a match from a given place can end, so that only
whether it matches is decided, not which of several matches is preferred.
-/

namespace Reconcile

/-- A set of characters. -/
inductive CharSet where
  | spans (s : Spans)
  | not (a : CharSet)
  | union (a b : CharSet)
  | inter (a b : CharSet)

/-- Whether a character is in a set. -/
def CharSet.has (c : Char) : CharSet → Bool
  | .spans s => s.has c
  | .not a => !a.has c
  | .union a b => a.has c || b.has c
  | .inter a b => a.has c && b.has c

/-- A condition on a place in a text. -/
inductive Pattern.Place where
  | textStart | textEnd | lineStart | lineEnd | wordEdge | notWordEdge

/-- A pattern. -/
inductive Pattern where
  | empty
  | char (set : CharSet)
  | place (p : Pattern.Place)
  | seq (a b : Pattern)
  | alt (a b : Pattern)
  | times (a : Pattern) (least : Nat) (most : Option Nat)
  /-- Holds where the pattern matches from here on, or where it does not. -/
  | ahead (wanted : Bool) (a : Pattern)
  /-- Holds where the pattern matches up to here, or where it does not. -/
  | behind (wanted : Bool) (a : Pattern)

namespace Pattern

/-- The characters that make up words: ASCII letters, digits and the underscore. -/
def wordSpans : Spans := [(0x30, 0x39), (0x41, 0x5a), (0x5f, 0x5f), (0x61, 0x7a)]

/-- Whether a word character stands at a place. -/
def isWordAt (text : Array Char) (i : Nat) : Bool := (text[i]?).any wordSpans.has

/-- Whether a word character stands before a place. -/
def isWordBefore (text : Array Char) (i : Nat) : Bool := i != 0 && isWordAt text (i - 1)

/-- Whether a condition holds of a place in a text. -/
def Place.holds (text : Array Char) (i : Nat) : Place → Bool
  | .textStart => i == 0
  | .textEnd => i == text.size
  | .lineStart => i == 0 || text[i - 1]? == some '\n'
  | .lineEnd => i == text.size || text[i]? == some '\n'
  | .wordEdge => isWordBefore text i != isWordAt text i
  | .notWordEdge => isWordBefore text i == isWordAt text i

/-- All places that some places lead to by a step, each once. -/
def step (f : Nat → List Nat) (places : List Nat) : List Nat := (places.flatMap f).eraseDups

/-- All places that lead on from some places by `n` steps. -/
def stepTimes (f : Nat → List Nat) : Nat → List Nat → List Nat
  | 0, places => places
  | n + 1, places => stepTimes f n (step f places)

/-- All places that lead on from some places by at most `n` steps. -/
def stepUpTo (f : Nat → List Nat) : Nat → List Nat → List Nat
  | 0, places => places
  | n + 1, places =>
    let more := (step f places).filter fun i => !places.contains i
    if more.isEmpty then places else stepUpTo f n (places ++ more)

/-- The places where a match that begins at `i` can end. -/
def ends (text : Array Char) : Pattern → Nat → List Nat
  | .empty, i => [i]
  | .char set, i => if (text[i]?).any (set.has ·) then [i + 1] else []
  | .place p, i => if p.holds text i then [i] else []
  | .seq a b, i => step (ends text b) (ends text a i)
  | .alt a b, i => (ends text a i ++ ends text b i).eraseDups
  | .times a least most, i =>
    let start := stepTimes (ends text a) least [i]
    match most with
    | none => stepUpTo (ends text a) (text.size + 1) start
    | some most => stepUpTo (ends text a) (most - least) start
  | .ahead wanted a, i => if (ends text a i).isEmpty = wanted then [] else [i]
  | .behind wanted a, i =>
    if ((List.range (i + 1)).any fun j => (ends text a j).contains i) = wanted then [i] else []

/-- Whether a pattern matches somewhere in a text. -/
def occursIn (text : String) (p : Pattern) : Bool :=
  let chars := text.toList.toArray
  (List.range (chars.size + 1)).any fun i => !(ends chars p i).isEmpty

end Pattern

end Reconcile
