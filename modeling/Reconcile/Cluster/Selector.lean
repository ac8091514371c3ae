import Reconcile.Resource
import Reconcile.Text.Blank

/-!
# Label selectors

A selector is a list of terms between commas, all of which an object has to satisfy. A term with
`!=` asks for a label to be absent or different, one with `=` for an exact value, one that starts
with `!` for absence, and any other for presence.
-/

namespace Reconcile

/-- What an object's labels have to satisfy. -/
inductive SelectorTerm where
  | equal (key value : String)
  | different (key value : String)
  | absent (key : String)
  | present (key : String)
deriving DecidableEq

/-- Terms that all have to hold. -/
abbrev Selector := List SelectorTerm

namespace Selector

/-- The pieces between commas. -/
def pieces : List Char → List (List Char)
  | [] => [[]]
  | c :: rest =>
    if c = ',' then [] :: pieces rest
    else
      match pieces rest with
      | [] => [[c]]
      | piece :: others => (c :: piece) :: others

/-- What stands before and after the first `=`. -/
def splitEqual : List Char → Option (List Char × List Char)
  | [] => none
  | c :: rest =>
    if c = '=' then some ([], rest)
    else (splitEqual rest).map fun (before, after) => (c :: before, after)

/-- What stands before and after the first `!=`. -/
def splitDifferent : List Char → Option (List Char × List Char)
  | '!' :: '=' :: rest => some ([], rest)
  | c :: rest => (splitDifferent rest).map fun (before, after) => (c :: before, after)
  | [] => none

/-- Reads a term without blanks around it. -/
def parseTerm (cs : List Char) : SelectorTerm :=
  let text (cs : List Char) : String := String.ofList (Text.trim cs)
  match splitDifferent cs with
  | some (key, value) => .different (text key) (text value)
  | none =>
    match splitEqual cs with
    | some (key, value) => .equal (text key) (text value)
    | none =>
      match cs with
      | '!' :: key => .absent (String.ofList key)
      | key => .present (String.ofList key)

/-- Reads a selector; blanks around a term do not count, nor do empty terms. -/
def parse (text : String) : Selector :=
  (((pieces text.toList).map Text.trim).filter (!·.isEmpty)).map parseTerm

end Selector

/-- Whether a term holds of an object. -/
def SelectorTerm.holds (r : Resource) : SelectorTerm → Bool
  | .equal key value => r.label? key == some value
  | .different key value => r.label? key != some value
  | .absent key => (r.label? key).isNone
  | .present key => (r.label? key).isSome

/-- Whether all terms hold of an object. -/
def Selector.holds (r : Resource) (s : Selector) : Bool := s.all (·.holds r)

end Reconcile
