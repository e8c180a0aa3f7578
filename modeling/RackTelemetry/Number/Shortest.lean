import RackTelemetry.Number.Rounding

/-!
The shortest decimal text of a double-precision number: of all decimals that round to the number,
those with the fewest digits, and of these the nearest one. A tie goes to the even neighbour.
-/

namespace RackTelemetry.Number

/-- The number `digits * 10 ^ exponent`. -/
structure Decimal where
  digits : Nat
  exponent : Int
  deriving Repr, DecidableEq, Inhabited

namespace Decimal

/-- The bits of the double-precision number nearest to a decimal. -/
def nearestBits (d : Decimal) : Nat :=
  if 0 ≤ d.exponent then Number.nearestBits (d.digits * Nat.pow 10 d.exponent.toNat) 1
  else Number.nearestBits d.digits (Nat.pow 10 (-d.exponent).toNat)

/-- A quotient in units of `10 ^ e`, as a quotient again. -/
def inUnits (num den : Nat) (e : Int) : Nat × Nat :=
  if 0 ≤ e then (num, den * Nat.pow 10 e.toNat) else (num * Nat.pow 10 (-e).toNat, den)

/-- The multiple of `10 ^ e` that is nearest to a quotient among those that round to the number with
the given bits. There is none but one of the two neighbours, as the numbers that round to a number
lie around it without a gap. -/
def onGrid? (bits num den : Nat) (e : Int) : Option Decimal :=
  let (num, den) := inUnits num den e
  let neighbours := [roundDiv num den, num / den, num / den + 1]
  (neighbours.map fun m => ⟨m, e⟩).find? fun d => d.nearestBits = bits

/-- The decimal on the coarsest grid that has one, from the multiples of `10 ^ e` on. -/
def onGrids (bits num den : Nat) (e : Int) : Nat → Decimal
  | 0 => ⟨roundDiv (inUnits num den e).1 (inUnits num den e).2, e⟩
  | grids + 1 => (onGrid? bits num den e).getD (onGrids bits num den (e - 1) grids)

/-- The magnitude of the finite number with the given bits, as a quotient. -/
def quotientOfBits (bits : Nat) : Nat × Nat :=
  let exponent := bits / Nat.pow 2 52 % Nat.pow 2 11
  let fraction := bits % Nat.pow 2 52
  let (m, e) := if exponent = 0 then (fraction, 1) else (Nat.pow 2 52 + fraction, exponent)
  if 1075 ≤ e then (m * Nat.pow 2 (e - 1075), 1) else (m, Nat.pow 2 (1075 - e))

/-- The shortest decimal of the positive number with the given bits. Seventeen digits are always
enough, and the first grid is at most two places too coarse for a digit. -/
def ofBits (bits : Nat) : Decimal :=
  let (num, den) := quotientOfBits bits
  let first : Int :=
    if den ≤ num then (toString (num / den)).length else 1 - ((toString (den / num)).length : Int)
  onGrids bits num den first 19

/-- The text of a decimal, with a point, or with an exponent where it would take many zeros. -/
def chars (d : Decimal) : List Char :=
  let digits := (toString d.digits).toList
  let point : Int := digits.length + d.exponent
  let zeros (n : Int) : List Char := List.replicate n.toNat '0'
  if 0 ≤ d.exponent ∧ point ≤ 16 then digits ++ zeros d.exponent ++ ['.', '0']
  else if 0 < point ∧ point ≤ 16 then digits.take point.toNat ++ '.' :: digits.drop point.toNat
  else if -5 < point ∧ point ≤ 0 then '0' :: '.' :: (zeros (-point) ++ digits)
  else
    let places := if digits.length = 1 then [] else '.' :: digits.drop 1
    digits.take 1 ++ places ++ 'e' :: (toString (point - 1)).toList

end Decimal

/-- The shortest text of the finite double-precision number with the given bits. -/
def shortestOfBits (bits : Nat) : List Char :=
  let magnitude := bits % Nat.pow 2 63
  let sign := if bits / Nat.pow 2 63 = 1 then ['-'] else []
  sign ++ if magnitude = 0 then ['0', '.', '0'] else (Decimal.ofBits magnitude).chars

/-- The shortest text of a finite number. Numbers that are not finite have none. -/
def shortest (x : Float) : List Char :=
  if x.isFinite then shortestOfBits x.toBits.toNat else ['n', 'u', 'l', 'l']

example : shortestOfBits 0x3fbae147ae147ae2 = "0.10500000000000001".toList := by
  decide +kernel

end RackTelemetry.Number
