import Reconcile.Comparison.Equality

/-!
# Trimming a live value

`Json.trim config live` keeps of `live` what `config` mentions. Members that `config` lacks are
dropped; an empty object mentions everything. An array keeps its further items. Where `live` lacks
a member that `config` gives an empty value, the empty value stands. Numbers that are equal are
written as in `config`. Where the shapes differ, `live` stays as it is.
-/

namespace Reconcile.Json

mutual

/-- What `config` mentions of `live`. -/
def trim : Json → Json → Json
  | .object [], .object live => .object live
  | .object (m :: config), .object live => .object (trimFields (m :: config) live)
  | .array config, .array live => .array (trimItems config live)
  | .number config, .number live => .number (if config.sameValue live then config else live)
  | _, live => live

/-- The members that a non-empty config mentions. -/
def trimFields : List (String × Json) → Fields → Fields
  | [], _ => []
  | (k, v) :: rest, live =>
    match live.get? k with
    | some w => (k, trim v w) :: trimFields rest live
    | none => if v.isEmptyValue then (k, v) :: trimFields rest live else trimFields rest live

/-- The live items, each trimmed by the item in its place, if there is one. -/
def trimItems : List Json → List Json → List Json
  | c :: config, l :: live => trim c l :: trimItems config live
  | _, live => live

end

end Reconcile.Json
