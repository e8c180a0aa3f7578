/-!
Rounding quotients to nearest, to integers and to double-precision numbers. A tie goes to the even
neighbour.
-/

namespace RackTelemetry.Number

/-- The quotient of two numbers rounded to nearest; a tie goes to the even neighbour. -/
def roundDiv (num den : Nat) : Nat :=
  let q := num / den
  let twice := 2 * (num % den)
  if twice < den then q
  else if den < twice then q + 1
  else if q % 2 = 0 then q else q + 1

/-- The bits of infinity. All smaller numbers are those of finite numbers, in ascending order. -/
def infinityBits : Nat := 0x7ff0000000000000

/-- The integer `k` for which a quotient of positive numbers lies between `2 ^ k` and
`2 ^ (k + 1)`. -/
def binaryOrder (num den : Nat) : Int :=
  let k : Int := (num.log2 : Int) - den.log2
  let reached : Bool :=
    if 0 ≤ k then decide (den * Nat.pow 2 k.toNat ≤ num)
    else decide (den ≤ num * Nat.pow 2 (-k).toNat)
  if reached then k else k - 1

/-- The bits of the double-precision number nearest to a quotient. A significand has 53 bits, and
the smallest unit is `2 ^ (-1074)`. -/
def nearestBits (num den : Nat) : Nat :=
  if num = 0 then 0
  else
    let unit : Int := max (binaryOrder num den - 52) (-1074)
    let significand :=
      if 0 ≤ unit then roundDiv num (den * Nat.pow 2 unit.toNat)
      else roundDiv (num * Nat.pow 2 (-unit).toNat) den
    min infinityBits ((unit + 1074).toNat * Nat.pow 2 52 + significand)

def nearest (num den : Nat) : Float := Float.ofBits (UInt64.ofNat (nearestBits num den))

example : nearestBits 1 3 = 0x3fd5555555555555 ∧ nearestBits 1 1 = 0x3ff0000000000000 := by
  decide +kernel

end RackTelemetry.Number
