/-!
# Bytes in addresses

A byte that stands for itself in no address is written as a percent sign and two upper-case
hexadecimal digits. In forms a blank is a plus sign.
-/

namespace Reconcile.Text

/-- Two upper-case hexadecimal digits behind a percent sign. -/
def percentByte (b : UInt8) : List Char :=
  '%' :: ((Nat.toDigits 16 (256 + b.toNat)).drop 1).map Char.toUpper

/-- A character by the bytes of its UTF-8 form. -/
def percentChar (c : Char) : List Char := c.toString.toUTF8.data.toList.flatMap percentByte

/-- Whether a character stands for itself in a form. -/
def isPlainInForm (c : Char) : Bool := c.isAlphanum || ['*', '-', '.', '_'].contains c

/-- A text as the value of a field of a form. -/
def formEncoded (s : String) : String :=
  String.ofList (s.toList.flatMap fun c =>
    if c = ' ' then ['+'] else if isPlainInForm c then [c] else percentChar c)

end Reconcile.Text
