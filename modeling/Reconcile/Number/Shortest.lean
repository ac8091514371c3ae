import Reconcile.Number.Binary64

/-!
# Shortest decimal text

`Binary64.shortest` finds the decimal number with the fewest digits that rounds back to a given
value, and of those the nearest. `Binary64.text` writes it: positional notation as long as the
point stands from five places before the first digit to sixteen places after it, and always with
a point or an exponent, so that the text is never that of an integer.
-/

namespace Reconcile

/-- The decimal number `coefficient · 10 ^ exponent`. -/
structure Decimal where
  coefficient : Nat
  exponent : Int
deriving DecidableEq, Repr

namespace Binary64

/-- Searches the grids of multiples of `10 ^ p` for falling `p`; the first grid with a point
between the half-way marks of the neighbours wins. -/
def shortestFrom (m : Nat) (e : Int) : Nat → Int → Decimal
  | 0, p => ⟨m, p⟩
  | fuel + 1, p =>
    -- in units of a quarter of the last binary place
    let lower := 4 * m - (if m = 0x10000000000000 ∧ e ≠ -1074 then 1 else 2)
    let upper := 4 * m + 2
    let point := Nat.pow 10 p.toNat * Nat.pow 2 (2 - e).toNat
    let unit := Nat.pow 10 (-p).toNat * Nat.pow 2 (e - 2).toNat
    let within (c : Nat) : Bool :=
      if m % 2 = 0 then lower * unit ≤ c * point && c * point ≤ upper * unit
      else lower * unit < c * point && c * point < upper * unit
    let below := 4 * m * unit / point
    let twiceOver := 2 * (4 * m * unit % point)
    match within below && below != 0, within (below + 1) with
    | true, true =>
      if twiceOver < point || (twiceOver == point && below % 2 == 0) then ⟨below, p⟩ else ⟨below + 1, p⟩
    | true, false => ⟨below, p⟩
    | false, true => ⟨below + 1, p⟩
    | false, false => shortestFrom m e fuel (p - 1)

/-- The fewest decimal digits that read back as `x`, without regard to its sign. -/
def shortest (x : Binary64) : Decimal :=
  if x.isZero then ⟨0, 0⟩
  else
    let top : Int := (x.mantissa.log2 : Int) + 1 + x.exponent
    shortestFrom x.mantissa x.exponent 400 (top * 30103 / 100000 + 1)

/-- A decimal number in text: digits `d`, with the point `point` places after the first digit's
left edge. -/
def layout (digits : String) (point : Int) : String :=
  let n : Int := digits.length
  if n ≤ point ∧ point ≤ 16 then
    digits ++ String.ofList (List.replicate (point - n).toNat '0') ++ ".0"
  else if 0 < point ∧ point ≤ 16 then
    String.ofList (digits.toList.take point.toNat) ++ "." ++ String.ofList (digits.toList.drop point.toNat)
  else if -5 < point ∧ point ≤ 0 then
    "0." ++ String.ofList (List.replicate (-point).toNat '0') ++ digits
  else
    let exponent := "e" ++ toString (point - 1)
    match digits.toList with
    | [d] => String.ofList [d] ++ exponent
    | d :: rest => String.ofList [d] ++ "." ++ String.ofList rest ++ exponent
    | [] => exponent

/-- The text of a value: its shortest digits, laid out. -/
def text (x : Binary64) : String :=
  let sign := if x.negative then "-" else ""
  if x.isZero then sign ++ "0.0"
  else
    let d := x.shortest
    let digits := toString d.coefficient
    sign ++ layout digits (digits.length + d.exponent)

end Binary64

end Reconcile
