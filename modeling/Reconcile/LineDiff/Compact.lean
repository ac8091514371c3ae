import Reconcile.LineDiff.Run

/-!
# Compact edit scripts

A script is made easier to read by moving its changes: a change moves over its neighbours as far
up as it can and then as far down as it can. It merges with changes of its kind, trades places
with changes of the other kind, and an insertion slides over equal lines that it repeats. First
all deletions move, then all insertions.
-/

namespace Reconcile.LineDiff

/-- A script seen from one of its runs: those before it, the nearest first, and those after it. -/
structure Focus where
  before : List Run
  run : Run
  after : List Run

namespace Focus

/-- The whole script. -/
def toList (f : Focus) : List Run := f.before.reverse ++ f.run :: f.after

/-- How many of the last lines of the equal run before are those that this run inserts last. -/
def slideUp (s : Sides) (equal run : Run) : Nat :=
  s.commonBefore equal.oldEnd run.newEnd (min equal.oldSize run.newSize)

/-- How many of the first lines of the equal run after are those that this run inserts first. -/
def slideDown (s : Sides) (equal run : Run) : Nat :=
  s.commonAfter equal.oldStart run.newStart (min equal.oldSize run.newSize)

/-- Two runs of one kind as one. -/
def merge (a b : Run) : Run :=
  { a with oldSize := a.oldSize + b.oldSize, newSize := a.newSize + b.newSize }

/-- Moves the run up as far as it goes. -/
def moveUp (s : Sides) : Nat → Focus → Focus
  | 0, f => f
  | fuel + 1, f =>
    match f.before with
    | [] => f
    | prev :: before =>
      if prev.change = .equal then
        let n := slideUp s prev f.run
        if n = 0 then
          if prev.isEmpty then moveUp s fuel { f with before := before } else f
        else
          let after :=
            match f.after with
            | next :: after =>
              if next.change = .equal then next.growStart n :: after
              else Run.equal (prev.oldEnd - n) (f.run.newEnd - n) n :: next :: after
            | [] => [Run.equal (prev.oldEnd - n) (f.run.newEnd - n) n]
          let prev := prev.shrinkEnd n
          let before := if prev.isEmpty then before else prev :: before
          moveUp s fuel ⟨before, f.run.shiftUp n, after⟩
      else if prev.change = f.run.change then moveUp s fuel ⟨before, merge prev f.run, f.after⟩
      else moveUp s fuel ⟨before, f.run, prev :: f.after⟩

/-- Moves the run down as far as it goes. -/
def moveDown (s : Sides) : Nat → Focus → Focus
  | 0, f => f
  | fuel + 1, f =>
    match f.after with
    | [] => f
    | next :: after =>
      if next.change = .equal then
        let n := slideDown s next f.run
        if n = 0 then
          if next.isEmpty then moveDown s fuel { f with after := after } else f
        else
          let before :=
            match f.before with
            | prev :: before =>
              if prev.change = .equal then prev.growEnd n :: before
              else Run.equal next.oldStart f.run.newStart n :: prev :: before
            | [] => [Run.equal next.oldStart f.run.newStart n]
          let next := next.shrinkStart n
          let after := if next.isEmpty then after else next :: after
          moveDown s fuel ⟨before, f.run.shiftDown n, after⟩
      else if next.change = f.run.change then moveDown s fuel ⟨f.before, merge f.run next, after⟩
      else moveDown s fuel ⟨next :: f.before, f.run, after⟩

end Focus

/-- How many moves a script can take in one direction. -/
def moveBound (runs : List Run) : Nat := runs.foldr (fun r n => r.oldSize + r.newSize + 2 + n) 1

/-- Moves every run of a kind; `done` are the runs before, the nearest first. -/
def settle (s : Sides) (change : Change) : Nat → List Run → List Run → List Run
  | 0, done, rest => done.reverse ++ rest
  | _ + 1, done, [] => done.reverse
  | fuel + 1, done, r :: rest =>
    if r.change = change then
      let bound := moveBound (done ++ r :: rest)
      let f := Focus.moveDown s bound (Focus.moveUp s bound ⟨done, r, rest⟩)
      settle s change fuel (f.run :: f.before) f.after
    else settle s change fuel (r :: done) rest

/-- A script with the same effect whose changes lie together. -/
def compact (s : Sides) (runs : List Run) : List Run :=
  let runs := settle s .delete (moveBound runs) [] runs
  settle s .insert (moveBound runs) [] runs

/-- Puts equal runs together, and a deletion and an insertion with nothing between them into one
replacement. `equal`, `deleted` and `inserted` are what is pending. -/
def combine : Option Run → Option Run → Option Run → List Run → List Run
  | equal, deleted, inserted, [] => equal.toList ++ changes deleted inserted
  | equal, deleted, inserted, r :: rest =>
    match r.change with
    | .delete =>
      equal.toList ++ combine none (some ((deleted.map (Focus.merge · r)).getD r)) inserted rest
    | .insert =>
      equal.toList ++ combine none deleted (some ((inserted.map (Focus.merge · r)).getD r)) rest
    | _ => changes deleted inserted ++ combine (some ((equal.map (Focus.merge · r)).getD r)) none none rest
where
  /-- The changes that are pending as one run. -/
  changes : Option Run → Option Run → List Run
    | some d, some i => [⟨.replace, d.oldStart, d.oldSize, i.newStart, i.newSize⟩]
    | d, i => d.toList ++ i.toList

/-- The runs of a script with neighbouring changes put together. -/
def combined (runs : List Run) : List Run := combine none none none runs

end Reconcile.LineDiff
