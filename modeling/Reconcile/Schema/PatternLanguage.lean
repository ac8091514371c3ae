/-!
# Patterns of schemas

Two keywords of a schema hold patterns, one for texts and one for the names of members, and each of
them is read in its own way. Of a pattern no more is asked than in which texts it occurs.
-/

namespace Reconcile

/-- What a pattern says of texts: whether it occurs in them. -/
abbrev Matcher : Type := String → Bool

/-- What the patterns under a keyword are for. -/
inductive PatternUse where
  | texts
  | memberNames

/-- A language that patterns are written in. -/
class PatternLanguage where
  /-- Reads a pattern, unless the text is none. -/
  parse? : PatternUse → String → Option Matcher

end Reconcile
