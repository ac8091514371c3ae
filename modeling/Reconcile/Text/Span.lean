/-!
# Spans of code points

A character class is a list of spans of code points, each with its first and last member.
-/

namespace Reconcile

/-- A character class: spans of code points, ends included. -/
abbrev Spans := List (Nat × Nat)

/-- Whether a character is in a class. -/
def Spans.has (spans : Spans) (c : Char) : Bool :=
  spans.any fun span => span.1 ≤ c.toNat && c.toNat ≤ span.2

end Reconcile
