import RackTelemetry.Number.Rounding

/-!
Numbers with two decimal places. A binary floating-point number is an integer times a power of two,
so its hundredths are a quotient of integers, which is rounded to nearest with ties to the even
neighbour.
-/

namespace RackTelemetry.Number

/-- A number of hundredths with a point before its last two digits. -/
def pointTwo (hundredths : Nat) : String :=
  let places := hundredths % 100
  toString (hundredths / 100) ++ "." ++ toString (places / 10) ++ toString (places % 10)

/-- The hundredths of `m * 2 ^ (e - 1075)`, rounded: the magnitude of a finite number with the
significand `m` and the biased exponent `e`. -/
def hundredths (m e : Nat) : Nat :=
  if 1075 ≤ e then m * Nat.pow 2 (e - 1075) * 100 else roundDiv (m * 100) (Nat.pow 2 (1075 - e))

/-- The text with two places of the double-precision number with the given bits. A negative number
keeps its sign, also where it rounds to zero. -/
def fixedTwoOfBits (bits : UInt64) : String :=
  let n := bits.toNat
  let sign := if n / Nat.pow 2 63 = 1 then "-" else ""
  let exponent := n / Nat.pow 2 52 % Nat.pow 2 11
  let fraction := n % Nat.pow 2 52
  if exponent = 2047 then
    if fraction = 0 then sign ++ "inf" else "NaN"
  else if exponent = 0 then sign ++ pointTwo (hundredths fraction 1)
  else sign ++ pointTwo (hundredths (Nat.pow 2 52 + fraction) exponent)

def fixedTwo (x : Float) : String := fixedTwoOfBits x.toBits

/-- A temperature in kelvin as degrees Celsius with two places. -/
def celsiusOfKelvin (kelvin : Float) : String := fixedTwo (kelvin - 273.15)

end RackTelemetry.Number
