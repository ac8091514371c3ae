import Reconcile.Resource

/-!
# Objects in a document

`Json.collect` finds the objects in a document. A value with a kind and an API version is an
object, unless it is a list of objects, which stands for its items; other objects and arrays are
searched, and null holds nothing. Anything else is out of place, and is reported by its path.
-/

namespace Reconcile.Json

/-- Whether a value is an object of its own: it has a kind and an API version. -/
def isManifest (members : Fields) : Bool := members.has "kind" && members.has "apiVersion"

/-- Whether an object stands for its items: its kind ends in `List` and it has an array of them. -/
def isListManifest (members : Fields) : Bool :=
  ((members.string? "kind").any fun kind => "List".toList.isSuffixOf kind.toList)
    && (members.array? "items").isSome

mutual

/-- Appends the objects in a value to those found before. -/
def collect (path : String) : Json → List Resource → Except ModelError (List Resource)
  | .null, found => .ok found
  | .array items, found => collectItems path 0 items found
  | .object members, found =>
    if isManifest members then
      if isListManifest members then collectUnder "items" (path ++ ".items") members found
      else do return found ++ [← Resource.ofFields members]
    else collectFields path members found
  | other, _ => .error (.unexpectedValue path other.shape)

/-- Appends the objects in the items of an array, whose first item here has the given index. -/
def collectItems (path : String) (index : Nat) :
    List Json → List Resource → Except ModelError (List Resource)
  | [], found => .ok found
  | v :: rest, found => do
    collectItems path (index + 1) rest (← collect (path ++ "[" ++ toString index ++ "]") v found)

/-- Appends the objects in the members of an object. -/
def collectFields (path : String) :
    List (String × Json) → List Resource → Except ModelError (List Resource)
  | [], found => .ok found
  | (k, v) :: rest, found => do collectFields path rest (← collect (path ++ "." ++ k) v found)

/-- Appends the objects in the member under one key. -/
def collectUnder (key path : String) :
    List (String × Json) → List Resource → Except ModelError (List Resource)
  | [], found => .ok found
  | (k, v) :: rest, found => if k = key then collect path v found else collectUnder key path rest found

end

end Reconcile.Json
