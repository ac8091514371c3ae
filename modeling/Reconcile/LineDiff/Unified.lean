import Reconcile.LineDiff.Compact
import Reconcile.LineDiff.Search

/-!
# Unified diffs

The unified diff of two texts: hunks of changed lines with up to three lines around them, deleted
lines before inserted ones. Equal texts have an empty diff.
-/

namespace Reconcile.LineDiff

/-- The lines of a text with their line feeds; the last one may lack its own. -/
def splitLines : List Char → List Char → List String
  | [], [] => []
  | line, [] => [String.ofList line.reverse]
  | line, '\n' :: rest => String.ofList ('\n' :: line).reverse :: splitLines [] rest
  | line, c :: rest => splitLines (c :: line) rest

/-- How many equal lines are shown around a change. -/
def radius : Nat := 3

/-- Cuts the equal lines at the start and the end of a script down to what is shown. -/
def trimEnds (runs : List Run) : List Run :=
  let runs :=
    match runs with
    | r :: rest => if r.change = Change.equal then r.shrinkStart (r.oldSize - radius) :: rest else runs
    | [] => []
  match runs.reverse with
  | r :: rest => if r.change = Change.equal then (r.shrinkEnd (r.oldSize - radius) :: rest).reverse else runs
  | [] => []

/-- Divides a script where more equal lines stand than two changes can show. -/
def hunks : List Run → List Run → List (List Run)
  | pending, [] =>
    match pending with
    | [] => []
    | [r] => if r.change = .equal then [] else [[r]]
    | pending => [pending.reverse]
  | pending, r :: rest =>
    if r.change = .equal ∧ r.oldSize > 2 * radius then
      (r.shrinkEnd (r.oldSize - radius) :: pending).reverse :: hunks [r.shrinkStart (r.oldSize - radius)] rest
    else hunks (r :: pending) rest

/-- The range of a hunk: its first line and its size, one line without a size and no lines as the
line before them. -/
def rangeText (start stop : Nat) : String :=
  let size := stop - start
  if size = 1 then toString (start + 1)
  else toString (if size = 0 then start else start + 1) ++ "," ++ toString size

/-- Lines with a sign in front. -/
def signed (sign : String) (lines : Array String) (start size : Nat) : String :=
  String.join (((lines.toList.drop start).take size).map (sign ++ ·))

/-- The lines of a run. -/
def runText (s : Sides) (r : Run) : String :=
  match r.change with
  | .equal => signed " " s.old r.oldStart r.oldSize
  | _ => signed "-" s.old r.oldStart r.oldSize ++ signed "+" s.new r.newStart r.newSize

/-- A hunk with its header. -/
def hunkText (s : Sides) (runs : List Run) : String :=
  match runs.head?, runs.getLast? with
  | some first, some last =>
    "@@ -" ++ rangeText first.oldStart last.oldEnd ++ " +" ++ rangeText first.newStart last.newEnd ++ " @@\n"
      ++ String.join (runs.map (runText s))
  | _, _ => ""

/-- The unified diff of two texts under the given names. -/
def unified (oldName newName old new : String) : String :=
  let s : Sides := ⟨(splitLines [] old.toList).toArray, (splitLines [] new.toList).toArray⟩
  match hunks [] (trimEnds (combined (compact s (script s)))) with
  | [] => ""
  | parts => "--- " ++ oldName ++ "\n+++ " ++ newName ++ "\n" ++ String.join (parts.map (hunkText s))

end Reconcile.LineDiff
