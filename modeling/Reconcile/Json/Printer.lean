import Reconcile.Json.Basic
import Reconcile.Text.Quoted

/-!
# Writing JSON text

`Json.compact` writes a value without blanks, `Json.pretty` with one member or item a line and two
spaces of indentation. Both escape only what the format requires. `Json.ascii` is the compact text
with everything outside printable ASCII escaped.
-/

namespace Reconcile.Json

/-- Four lower-case hexadecimal digits. -/
def hex4 (n : Nat) : List Char :=
  let digits := Text.hex n
  List.replicate (4 - digits.length) '0' ++ digits

/-- One character of a string, escaped when the format requires it. -/
def escapedChar (c : Char) : List Char :=
  match c with
  | '"' => ['\\', '"']
  | '\\' => ['\\', '\\']
  | '\x08' => ['\\', 'b']
  | '\x0c' => ['\\', 'f']
  | '\n' => ['\\', 'n']
  | '\r' => ['\\', 'r']
  | '\t' => ['\\', 't']
  | c => if c < ' ' then ['\\', 'u'] ++ hex4 c.toNat else [c]

/-- One character of a string, with all but printable ASCII escaped. -/
def asciiChar (c : Char) : List Char :=
  if c < '\x7f' then escapedChar c
  else if c.toNat < 0x10000 then ['\\', 'u'] ++ hex4 c.toNat
  else
    let n := c.toNat - 0x10000
    ['\\', 'u'] ++ hex4 (0xD800 + n / 0x400) ++ ['\\', 'u'] ++ hex4 (0xDC00 + n % 0x400)

/-- A string in quotes, its characters written by `escape`. -/
def stringWith (escape : Char → List Char) (s : String) : String :=
  String.ofList ('"' :: s.toList.flatMap escape ++ ['"'])

/-- A string in quotes. -/
def stringText (s : String) : String := stringWith escapedChar s

mutual

/-- The text without blanks, the characters of strings written by `escape`. -/
def compactWith (escape : Char → List Char) : Json → String
  | .null => "null"
  | .bool b => if b then "true" else "false"
  | .number n => n.text
  | .string s => stringWith escape s
  | .array items => "[" ++ ",".intercalate (itemsWith escape items) ++ "]"
  | .object members => "\x7b" ++ ",".intercalate (fieldsWith escape members) ++ "\x7d"

/-- The texts of the items. -/
def itemsWith (escape : Char → List Char) : List Json → List String
  | [] => []
  | v :: rest => compactWith escape v :: itemsWith escape rest

/-- The texts of the members. -/
def fieldsWith (escape : Char → List Char) : List (String × Json) → List String
  | [] => []
  | (k, v) :: rest => (stringWith escape k ++ ":" ++ compactWith escape v) :: fieldsWith escape rest

end

/-- The text without blanks. -/
def compact (v : Json) : String := compactWith escapedChar v

/-- The text without blanks, in ASCII. -/
def ascii (v : Json) : String := compactWith asciiChar v

/-- A line break and the indentation of a level. -/
def lineBreak (level : Nat) : String := "\n" ++ String.ofList (List.replicate (2 * level) ' ')

mutual

/-- The indented text, from the given level of nesting. -/
def prettyAt (level : Nat) : Json → String
  | .array (v :: rest) =>
    "[" ++ lineBreak (level + 1)
      ++ ("," ++ lineBreak (level + 1)).intercalate (prettyItems (level + 1) (v :: rest))
      ++ lineBreak level ++ "]"
  | .object (m :: rest) =>
    "\x7b" ++ lineBreak (level + 1)
      ++ ("," ++ lineBreak (level + 1)).intercalate (prettyFields (level + 1) (m :: rest))
      ++ lineBreak level ++ "\x7d"
  | v => v.compact

/-- The indented texts of the items. -/
def prettyItems (level : Nat) : List Json → List String
  | [] => []
  | v :: rest => prettyAt level v :: prettyItems level rest

/-- The indented texts of the members. -/
def prettyFields (level : Nat) : List (String × Json) → List String
  | [] => []
  | (k, v) :: rest => (stringText k ++ ": " ++ prettyAt level v) :: prettyFields level rest

end

/-- The text with one member or item a line. -/
def pretty (v : Json) : String := prettyAt 0 v

end Reconcile.Json
