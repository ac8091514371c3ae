import Reconcile.Failure

/-!
# Server versions and deletion

The version of a server decides how it is asked to delete: servers before 1.6 delete dependents in
the background, later ones in the foreground.
-/

namespace Reconcile

/-- A server's version, up to its minor number. -/
structure ServerVersion where
  major : UInt32
  minor : UInt32
deriving DecidableEq

namespace ServerVersion

/-- Lexicographic order. -/
def compare (v w : ServerVersion) : Ordering := (Ord.compare v.major w.major).then (Ord.compare v.minor w.minor)

/-- The two numbers with a point between. -/
def text (v : ServerVersion) : String := toString v.major ++ "." ++ toString v.minor

/-- Reads ASCII digits, at least one, perhaps after a plus sign, as a number of 32 bits. -/
def parseNumber (cs : List Char) : Option UInt32 :=
  let digits := match cs with
    | '+' :: rest => rest
    | _ => cs
  if digits.isEmpty || !digits.all Char.isDigit then none
  else
    let n := digits.foldl (fun n c => 10 * n + (c.toNat - '0'.toNat)) 0
    if n < UInt32.size then some n.toUInt32 else none

/-- Reads the first two parts of a release such as `v1.8.0`. -/
def ofRelease? (release : String) : Option ServerVersion :=
  match release.toList with
  | 'v' :: rest =>
    match (String.ofList rest).splitOn "." with
    | major :: minor :: _ => do return ⟨← parseNumber major.toList, ← parseNumber minor.toList⟩
    | _ => none
  | _ => none

/-- Reads a version from its numbers, the minor one perhaps with plus signs after it; where one of
the two is empty, from the name of the release. -/
def parse (major minor release : String) : Except VersionError ServerVersion :=
  if major ≠ "" ∧ minor ≠ "" then
    match parseNumber major.toList with
    | none => .error (.major major)
    | some ma =>
      match parseNumber (minor.toList.reverse.dropWhile (· == '+')).reverse with
      | none => .error (.minor minor)
      | some mi => .ok ⟨ma, mi⟩
  else
    match ofRelease? release with
    | some v => .ok v
    | none => .error (.release release)

end ServerVersion

/-- When the dependents of a deleted object go. -/
inductive Propagation where
  /-- Before the object. -/
  | foreground
  /-- After the object. -/
  | background
deriving DecidableEq

/-- The name of a way to propagate. -/
def Propagation.name : Propagation → String
  | .foreground => "Foreground"
  | .background => "Background"

/-- How an object is to be deleted. -/
structure DeleteOptions where
  /-- The only uid with which the object may be deleted. -/
  uid : Option String
  propagation : Propagation
  gracePeriod : Option UInt32
deriving DecidableEq

namespace DeleteOptions

/-- What a server of some version is asked for. -/
def forVersion (v : ServerVersion) : DeleteOptions :=
  { uid := none
    propagation := if v.compare ⟨1, 6⟩ = .lt then .background else .foreground
    gracePeriod := none }

/-- Deletion of an object with this uid and of no other. -/
def withUid (uid : Option String) (options : DeleteOptions) : DeleteOptions := { options with uid := uid }

end DeleteOptions

end Reconcile
