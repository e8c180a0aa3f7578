import RackTelemetry.Number.Integer
import RackTelemetry.Number.Rounding

/-!
Reading double-precision numbers from text: digits with an optional point and an optional exponent,
rounded to the nearest number, or the words `inf`, `infinity` and `nan` in any case.
-/

namespace RackTelemetry.Number

def digitsValue (cs : List Char) : Nat :=
  cs.foldl (fun sum c => sum * 10 + (c.toNat - '0'.toNat)) 0

/-- The number `m * 10 ^ e` rounded to nearest. Beyond 400 places it is infinite or zero whatever
the digits. -/
def decimal (m : Nat) (e : Int) : Float :=
  let places := (toString m).length
  if m = 0 then 0
  else if 400 < e + places then Float.ofBits 0x7ff0000000000000
  else if e + places < -400 then 0
  else if 0 ≤ e then nearest (m * Nat.pow 10 e.toNat) 1
  else nearest m (Nat.pow 10 (-e).toNat)

/-- The exponent after the digits: nothing, or `e` with an optional sign and one or more digits. -/
def readExponent : List Char → Option Int
  | [] => some 0
  | c :: cs =>
    if c = 'e' ∨ c = 'E' then
      let (negative, ds) : Bool × List Char :=
        match cs with
        | '-' :: ds => (true, ds)
        | '+' :: ds => (false, ds)
        | ds => (false, ds)
      if ds.isEmpty || !ds.all Char.isDigit then none
      else some (if negative then -(digitsValue ds : Int) else digitsValue ds)
    else none

def readMagnitude (cs : List Char) : Option Float :=
  let word := String.ofList (cs.map Char.toLower)
  if word = "inf" ∨ word = "infinity" then some (Float.ofBits 0x7ff0000000000000)
  else if word = "nan" then some (Float.ofBits 0x7ff8000000000000)
  else
    let whole := cs.takeWhile Char.isDigit
    let (places, rest) : List Char × List Char :=
      match cs.dropWhile Char.isDigit with
      | '.' :: rest => (rest.takeWhile Char.isDigit, rest.dropWhile Char.isDigit)
      | rest => ([], rest)
    if whole.isEmpty && places.isEmpty then none
    else
      (readExponent rest).map fun e =>
        decimal (digitsValue (whole ++ places)) (e - places.length)

/-- A double-precision number. No white space may stand around it. -/
def readReal (s : String) : Option Float :=
  match s.toList with
  | '-' :: cs => (readMagnitude cs).map fun x => -x
  | '+' :: cs => readMagnitude cs
  | cs => readMagnitude cs

end RackTelemetry.Number
