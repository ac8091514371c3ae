import Reconcile.Text.Quoted

/-!
# Label values

A label value has at most 63 bytes, all of them ASCII letters, digits, `-`, `_` or `.`, and starts
and ends with a letter or a digit; it may be empty. `Label.check` accepts exactly these.
-/

namespace Reconcile.Label

/-- Why a text is no label value. -/
inductive Problem where
  | tooLong (value : String)
  | badCharacter (value : String)

/-- The text of a problem. -/
def Problem.message : Problem → String
  | .tooLong value => Text.quoted value ++ ": must be no more than 63 characters"
  | .badCharacter value =>
    Text.quoted value
      ++ ": a valid label value must consist of alphanumeric characters, '-', '_' or '.', and must start and end with an alphanumeric character"

/-- ASCII letters and digits. -/
def isEdge (c : Char) : Bool := c.isAlphanum

/-- ASCII letters and digits, and the three marks between them. -/
def isInner (c : Char) : Bool := isEdge c || c == '-' || c == '_' || c == '.'

/-- Accepts a label value, else says what is wrong with it. -/
def check (value : String) : Except Problem Unit :=
  if value.utf8ByteSize > 63 then .error (.tooLong value)
  else if value.toList.all isInner && value.toList.head?.all isEdge && value.toList.getLast?.all isEdge then
    .ok ()
  else .error (.badCharacter value)

end Reconcile.Label
