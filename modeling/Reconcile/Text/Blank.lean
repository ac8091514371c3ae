import Reconcile.Text.Span

/-!
# Blanks

The white space that is trimmed from texts: every character with the white-space property, the
next-line control, the no-break space and the ideographic space included.
-/

namespace Reconcile.Text

/-- White space. -/
def blanks : Spans :=
  [(0x9, 0xd), (0x20, 0x20), (0x85, 0x85), (0xa0, 0xa0), (0x1680, 0x1680), (0x2000, 0x200a),
   (0x2028, 0x2029), (0x202f, 0x202f), (0x205f, 0x205f), (0x3000, 0x3000)]

/-- Whether a character is white space. -/
def isBlank (c : Char) : Bool := blanks.has c

/-- Without white space at the start. -/
def trimStart (cs : List Char) : List Char := cs.dropWhile isBlank

/-- Without white space at either end. -/
def trim (cs : List Char) : List Char := (trimStart (trimStart cs).reverse).reverse

end Reconcile.Text
