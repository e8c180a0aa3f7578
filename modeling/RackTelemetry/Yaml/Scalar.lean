import RackTelemetry.Json.Reader
import RackTelemetry.Number.Real

/-!
The values of YAML scalars. The words for nothing and for truth values are written in three ways
each. Integers are decimal, hexadecimal, octal or binary and have up to 128 bits; digits behind a
zero are text, and so is a number beyond the range of double precision.
-/

namespace RackTelemetry.Yaml

def isNull (s : String) : Bool := s ∈ ["null", "Null", "NULL", "~"]

def readBool? (s : String) : Option Bool :=
  if s ∈ ["true", "True", "TRUE"] then some true
  else if s ∈ ["false", "False", "FALSE"] then some false
  else none

/-- The number that digits of a base write. There must be at least one. -/
def readDigits? (base : Nat) (cs : List Char) : Option Nat :=
  if cs.isEmpty then none
  else cs.foldlM (fun sum c => do
    let d ← Json.hexDigit? c
    if d < base then some (sum * base + d) else none) 0

/-- A number without its sign. A decimal number of several digits does not begin with a zero. -/
def readMagnitude? : List Char → Option Nat
  | '0' :: 'x' :: cs => readDigits? 16 cs
  | '0' :: 'o' :: cs => readDigits? 8 cs
  | '0' :: 'b' :: cs => readDigits? 2 cs
  | ['0'] => some 0
  | '0' :: _ => none
  | cs => readDigits? 10 cs

def maxUnsigned : Nat := 0xffffffffffffffffffffffffffffffff

/-- The magnitude of the smallest signed number of 128 bits. -/
def minSigned : Nat := 0x80000000000000000000000000000000

def readInteger? (cs : List Char) : Option Int :=
  match cs with
  | '-' :: cs => ((readMagnitude? cs).filter (· ≤ minSigned)).map fun n => -(n : Int)
  | '+' :: cs | cs => ((readMagnitude? cs).filter (· ≤ maxUnsigned)).map Int.ofNat

/-- The double-precision number that a scalar writes. Only words stand for what is no finite number.
-/
def readFloat? (cs : List Char) : Option Float :=
  let (positive, body) : Bool × List Char :=
    match cs with
    | '+' :: cs => (true, cs)
    | cs => (false, cs)
  let word := String.ofList body
  if positive && body.head?.any fun c => c = '+' || c = '-' then none
  else if word ∈ [".inf", ".Inf", ".INF"] then Number.readReal "inf"
  else if word ∈ ["-.inf", "-.Inf", "-.INF"] then Number.readReal "-inf"
  else if !positive && word ∈ [".nan", ".NaN", ".NAN"] then Number.readReal "nan"
  else (Number.readReal word).filter Float.isFinite

/-- Several digits that begin with a zero, perhaps behind a sign. -/
def isPadded (cs : List Char) : Bool :=
  match cs with
  | '-' :: '0' :: ds | '+' :: '0' :: ds | '0' :: ds => !ds.isEmpty && ds.all Char.isDigit
  | _ => false

def plainValue (s : String) : Json :=
  if s.isEmpty || isNull s then .null
  else
    match readBool? s, readInteger? s.toList with
    | some b, _ => .bool b
    | none, some i => .integer i
    | none, none =>
      if isPadded s.toList then .text s
      else ((readFloat? s.toList).map Json.real).getD (.text s)

/-- The value of a scalar with a tag, or without one. Tags that begin with an exclamation mark name
types of an application, of which there are none; tags of other types make a text. -/
def scalarValue? (tag : Option String) (isPlain : Bool) (s : String) : Option Json :=
  match tag with
  | none => some (if isPlain then plainValue s else .text s)
  | some "tag:yaml.org,2002:bool" => (readBool? s).map .bool
  | some "tag:yaml.org,2002:int" => (readInteger? s.toList).map .integer
  | some "tag:yaml.org,2002:float" => (readFloat? s.toList).map .real
  | some "tag:yaml.org,2002:null" => if isNull s then some .null else none
  | some tag => if tag.startsWith "!" then none else some (.text s)

end RackTelemetry.Yaml
