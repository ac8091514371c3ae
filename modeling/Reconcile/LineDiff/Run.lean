/-!
# Runs of an edit script

An edit script that leads from one list of lines to another is a list of runs: lines that stay,
lines that are deleted and lines that are inserted, each run with its places on both sides.
-/

namespace Reconcile.LineDiff

/-- What happens to the lines of a run. -/
inductive Change where
  | equal | delete | insert | replace
deriving DecidableEq

/-- A run of lines: where it starts on either side and how many lines it has there. -/
structure Run where
  change : Change
  oldStart : Nat
  oldSize : Nat
  newStart : Nat
  newSize : Nat
deriving DecidableEq

namespace Run

/-- Lines that stay. -/
def equal (oldStart newStart size : Nat) : Run := ⟨.equal, oldStart, size, newStart, size⟩

/-- Lines that are deleted. -/
def delete (oldStart size newStart : Nat) : Run := ⟨.delete, oldStart, size, newStart, 0⟩

/-- Lines that are inserted. -/
def insert (oldStart newStart size : Nat) : Run := ⟨.insert, oldStart, 0, newStart, size⟩

/-- The same run `n` places further up. -/
def shiftUp (r : Run) (n : Nat) : Run := { r with oldStart := r.oldStart - n, newStart := r.newStart - n }

/-- The same run `n` places further down. -/
def shiftDown (r : Run) (n : Nat) : Run := { r with oldStart := r.oldStart + n, newStart := r.newStart + n }

/-- A run of equal lines with `n` more at its end. -/
def growEnd (r : Run) (n : Nat) : Run := { r with oldSize := r.oldSize + n, newSize := r.newSize + n }

/-- A run of equal lines with `n` fewer at its end. -/
def shrinkEnd (r : Run) (n : Nat) : Run := { r with oldSize := r.oldSize - n, newSize := r.newSize - n }

/-- A run of equal lines with `n` more at its start. -/
def growStart (r : Run) (n : Nat) : Run := (r.shiftUp n).growEnd n

/-- A run of equal lines with `n` fewer at its start. -/
def shrinkStart (r : Run) (n : Nat) : Run := (r.shiftDown n).shrinkEnd n

/-- Where the run ends on the old side. -/
def oldEnd (r : Run) : Nat := r.oldStart + r.oldSize

/-- Where the run ends on the new side. -/
def newEnd (r : Run) : Nat := r.newStart + r.newSize

/-- Whether the run has no lines. -/
def isEmpty (r : Run) : Bool := r.oldSize == 0 && r.newSize == 0

end Run

/-- The two lists of lines that are compared. -/
structure Sides where
  old : Array String
  new : Array String

namespace Sides

/-- Whether line `i` of the old side is line `j` of the new one. -/
def same (s : Sides) (i j : Nat) : Bool := s.old[i]? == s.new[j]?

/-- How many lines agree from two places on, of at most `n`. -/
def commonAfter (s : Sides) (i j : Nat) : Nat → Nat
  | 0 => 0
  | n + 1 => if s.same i j then s.commonAfter (i + 1) (j + 1) n + 1 else 0

/-- How many lines agree before two places, of at most `n`. -/
def commonBefore (s : Sides) (i j : Nat) : Nat → Nat
  | 0 => 0
  | n + 1 => if s.same (i - 1) (j - 1) then s.commonBefore (i - 1) (j - 1) n + 1 else 0

end Sides

end Reconcile.LineDiff
