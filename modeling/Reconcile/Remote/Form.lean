import Reconcile.Remote.Instant

/-!
# Forms

What is read of a value whose form is known. A form keeps of a value what it knows and refuses a
value of another kind. In a record, members that the form does not name and members that are null
are left out.
-/

namespace Reconcile

/-- Keeps of a value what is known, or refuses it. -/
abbrev Form := Json → Option Json

namespace Form

/-- A text. -/
def text : Form
  | .string s => some (.string s)
  | _ => none

/-- A truth value. -/
def truth : Form
  | .bool b => some (.bool b)
  | _ => none

/-- An integer between two others. -/
def integer (least greatest : Int) : Form
  | .number (.integer z) => if least ≤ z.val ∧ z.val ≤ greatest then some (.number (.integer z)) else none
  | _ => none

/-- An integer of 64 bits with a sign. -/
def wide : Form := integer (-0x8000000000000000) 0x7FFFFFFFFFFFFFFF

/-- An integer of 16 bits without a sign. -/
def natural16 : Form := integer 0 0xFFFF

/-- An integer of 32 bits without a sign. -/
def natural32 : Form := integer 0 0xFFFFFFFF

/-- An instant, kept in universal time. -/
def instant : Form
  | .string s => (Instant.ofText? s).map fun i => .string i.text
  | _ => none

/-- One of some texts. -/
def oneOf (texts : List String) : Form
  | .string s => if s ∈ texts then some (.string s) else none
  | _ => none

/-- A list. -/
def listOf (item : Form) : Form
  | .array items => (items.mapM item).map .array
  | _ => none

/-- An object with any keys. -/
def mapOf (value : Form) : Form
  | .object members => do
    return .object (← members.mapM fun (key, v) => do return (key, ← value v))
  | _ => none

/-- An object with known keys, of which each may be missing or null. -/
def record (known : List (String × Form)) : Form
  | .object members => do
    let kept ← members.filterMapM fun (key, v) =>
      match known.lookup key with
      | none => some none
      | some form => if v.isNull then some none else (form v).map fun v => some (key, v)
    return .object kept
  | _ => none

/-- A record in which some texts are empty rather than missing. -/
def completing (keys : List String) (form : Form) : Form := fun v => do
  let members ← (← form v).object?
  return .object (keys.foldl (fun members key =>
    if Fields.has key members then members else Fields.insert key "" members) members)

/-- A form that also refuses null members of known keys. -/
def strict (known : List (String × Form)) : Form
  | .object members =>
    if members.any fun (key, v) => v.isNull && (known.lookup key).isSome then none
    else record known (.object members)
  | _ => none

end Form

namespace Fields

/-- Reads a member that may be missing or null. -/
def maybe? {α : Type} (key : String) (read : Json → Option α) (members : Fields) : Option (Option α) :=
  match members.get? key with
  | none | some .null => some none
  | some v => (read v).map some

/-- Reads a member for which a missing or null one counts as the default. -/
def read? {α : Type} [Inhabited α] (key : String) (read : Json → Option α) (members : Fields) : Option α :=
  (members.maybe? key read).map (·.getD default)

end Fields

/-- Reads a list. -/
def Json.listOf? {α : Type} (read : Json → Option α) (v : Json) : Option (List α) := do
  (← v.array?).mapM read

end Reconcile
