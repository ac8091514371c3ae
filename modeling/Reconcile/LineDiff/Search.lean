import Reconcile.LineDiff.Run

/-!
# Shortest edit scripts

`script` finds a shortest edit script by dividing the problem: what two boxes have in common at
their ends is set aside, and the rest is split at a point that some shortest script passes, found
by searching from both corners at once. A diagonal `k` of a box holds the points `x - k = y`; the
searches keep for each diagonal the furthest point reached with a given number of edits.
-/

namespace Reconcile.LineDiff

/-- The part of both sides that is still to be compared. -/
structure Box where
  oldStart : Nat
  oldEnd : Nat
  newStart : Nat
  newEnd : Nat

namespace Box

/-- How many old lines a box covers. -/
def oldSize (b : Box) : Nat := b.oldEnd - b.oldStart

/-- How many new lines a box covers. -/
def newSize (b : Box) : Nat := b.newEnd - b.newStart

end Box

/-- The furthest points reached, by diagonal. -/
structure Frontier where
  middle : Nat
  reached : Array Nat

namespace Frontier

/-- Nothing is reached yet. -/
def start (middle : Nat) : Frontier := ⟨middle, Array.replicate (2 * middle + 2) 0⟩

/-- The furthest point of a diagonal. -/
def get (f : Frontier) (k : Int) : Nat := f.reached.getD (f.middle + k).toNat 0

/-- Moves the furthest point of a diagonal. -/
def set (f : Frontier) (k : Int) (x : Nat) : Frontier :=
  { f with reached := f.reached.setIfInBounds (f.middle + k).toNat x }

/-- Where a path with one more edit enters a diagonal. -/
def enter (f : Frontier) (d k : Int) : Nat :=
  if k = -d ∨ (k ≠ d ∧ f.get (k - 1) < f.get (k + 1)) then f.get (k + 1) else f.get (k - 1) + 1

end Frontier

/-- One round of the search from the start: diagonals `d`, `d - 2`, …, of which `left` remain.
Gives the start of the run on which the searches meet. -/
def forward (s : Sides) (b : Box) (d : Int) (back : Frontier) :
    Nat → Int → Frontier → Frontier × Option (Nat × Nat)
  | 0, _, f => (f, none)
  | left + 1, k, f =>
    let x := f.enter d k
    let y : Int := x - k
    let run :=
      if x < b.oldSize ∧ 0 ≤ y ∧ y < b.newSize then
        s.commonAfter (b.oldStart + x) (b.newStart + y.toNat) (min (b.oldSize - x) (b.newSize - y.toNat))
      else 0
    let f := f.set k (x + run)
    let delta : Int := b.oldSize - b.newSize
    if delta % 2 ≠ 0 ∧ (k - delta).natAbs ≤ d - 1 ∧ x + run + back.get (-(k - delta)) ≥ b.oldSize then
      (f, some (b.oldStart + x, b.newStart + y.toNat))
    else forward s b d back left (k - 2) f

/-- One round of the search from the end, seen backwards. Gives the point where the searches
meet. -/
def backward (s : Sides) (b : Box) (d : Int) (fore : Frontier) :
    Nat → Int → Frontier → Frontier × Option (Nat × Nat)
  | 0, _, f => (f, none)
  | left + 1, k, f =>
    let x := f.enter d k
    let y : Int := x - k
    let run :=
      if x < b.oldSize ∧ 0 ≤ y ∧ y < b.newSize then
        s.commonBefore (b.oldEnd - x) (b.newEnd - y.toNat) (min (b.oldSize - x) (b.newSize - y.toNat))
      else 0
    let f := f.set k (x + run)
    let delta : Int := b.oldSize - b.newSize
    if delta % 2 = 0 ∧ (k - delta).natAbs ≤ d ∧ x + run + fore.get (-(k - delta)) ≥ b.oldSize then
      (f, some (b.oldEnd - (x + run), b.newEnd - (y + run).toNat))
    else backward s b d fore left (k - 2) f

/-- A point in the middle of a shortest script, found with at most `fuel` more edits a side. -/
def middle? (s : Sides) (b : Box) : Nat → Nat → Frontier → Frontier → Option (Nat × Nat)
  | 0, _, _, _ => none
  | fuel + 1, d, fore, back =>
    match forward s b d back (d + 1) d fore with
    | (_, some point) => some point
    | (fore, none) =>
      match backward s b d fore (d + 1) d back with
      | (_, some point) => some point
      | (back, none) => middle? s b fuel (d + 1) fore back

/-- How many edits a side may take. -/
def halfWay (b : Box) : Nat := (b.oldSize + b.newSize + 1) / 2 + 1

/-- The runs of a shortest script inside a box. -/
def scriptIn (s : Sides) : Nat → Box → List Run
  | 0, _ => []
  | fuel + 1, b =>
    let lead := s.commonAfter b.oldStart b.newStart (min b.oldSize b.newSize)
    let head := if lead = 0 then [] else [Run.equal b.oldStart b.newStart lead]
    let b : Box := { b with oldStart := b.oldStart + lead, newStart := b.newStart + lead }
    let tail := s.commonBefore b.oldEnd b.newEnd (min b.oldSize b.newSize)
    let b : Box := { b with oldEnd := b.oldEnd - tail, newEnd := b.newEnd - tail }
    let last := if tail = 0 then [] else [Run.equal b.oldEnd b.newEnd tail]
    let core :=
      if b.oldSize = 0 ∧ b.newSize = 0 then []
      else if b.newSize = 0 then [Run.delete b.oldStart b.oldSize b.newStart]
      else if b.oldSize = 0 then [Run.insert b.oldStart b.newStart b.newSize]
      else
        match middle? s b (halfWay b) 0 (.start (halfWay b + 1)) (.start (halfWay b + 1)) with
        | some (x, y) =>
          scriptIn s fuel { b with oldEnd := x, newEnd := y }
            ++ scriptIn s fuel { b with oldStart := x, newStart := y }
        | none =>
          [Run.delete b.oldStart b.oldSize b.newStart, Run.insert b.oldStart b.newStart b.newSize]
    head ++ core ++ last

/-- The runs of a shortest script. -/
def script (s : Sides) : List Run :=
  scriptIn s (s.old.size + s.new.size + 1) ⟨0, s.old.size, 0, s.new.size⟩

end Reconcile.LineDiff
