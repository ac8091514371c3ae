/-!
# YAML tokens

The tokens of a YAML stream. Block structure shows as start and end tokens made from indentation,
and a mapping key is marked before its first token even where the text shows no sign of it.
-/

namespace Reconcile.Yaml

/-- How a scalar is written. -/
inductive ScalarStyle where
  | plain | quoted | literal | folded
deriving DecidableEq, Repr

/-- A token of a YAML stream. -/
inductive Token where
  | versionDirective (major minor : Nat)
  | tagDirective (handle lead : String)
  | documentStart
  | documentEnd
  | blockSequenceStart
  | blockMappingStart
  | blockEnd
  | flowSequenceStart
  | flowSequenceEnd
  | flowMappingStart
  | flowMappingEnd
  | blockEntry
  | flowEntry
  | key
  | value
  | alias (name : String)
  | anchor (name : String)
  | tag (handle suffix : String)
  | scalar (style : ScalarStyle) (text : String)
deriving DecidableEq, Repr

end Reconcile.Yaml
