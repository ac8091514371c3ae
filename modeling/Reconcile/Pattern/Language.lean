import Reconcile.Pattern.Parser
import Reconcile.Schema.PatternLanguage

/-!
# The language of patterns

Patterns for texts have short classes of listed characters; where they are for the names of members,
all white space is blank.
-/

namespace Reconcile.Pattern

/-- The two ways in which schemas read their patterns. -/
instance : PatternLanguage where
  parse? use text :=
    let names : ClassNames :=
      match use with
      | .texts => .listed
      | .memberNames => .broad
    (parse? names text).map fun p text => p.occursIn text

end Reconcile.Pattern
