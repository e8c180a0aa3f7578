/-!
Reading integers of 64 bits from text, and the one-based numbers of slots. An integer is an optional
sign and one or more ASCII digits, and must lie in its range. The digits are taken from left to
right, so the first thing wrong with a text is the one that is named.
-/

namespace RackTelemetry.Number

/-- The largest unsigned number of 64 bits. -/
def maxWord : Nat := 0xffffffffffffffff

/-- The largest signed number of 64 bits. The smallest one is one further from zero. -/
def maxInt : Nat := 0x7fffffffffffffff

/-- The one-based number of slot `i`, which the largest index does not have. A program that checks
its arithmetic ends where it counts on from there. -/
def ordinal? (i : Nat) : Option Nat := if i < maxWord then some (i + 1) else none

/-- The one-based number of slot `i` in a name. Without a check the number after the largest one is
zero; no list in memory has that many slots. -/
def ordinal (i : Nat) : Nat := if i = maxWord then 0 else i + 1

theorem ordinal?_of_lt {i : Nat} (h : i < maxWord) : ordinal? i = some (i + 1) := if_pos h

theorem ordinal?_eq_some_iff {i n : Nat} : ordinal? i = some n ↔ i < maxWord ∧ i + 1 = n := by
  unfold ordinal?
  split <;> simp [*]

theorem ordinal?_eq_none_iff {i : Nat} : ordinal? i = none ↔ maxWord ≤ i := by
  unfold ordinal?
  split <;> simp <;> omega

theorem ordinal_of_lt {i : Nat} (h : i < maxWord) : ordinal i = i + 1 := by
  simp [ordinal, Nat.ne_of_lt h]

theorem ordinal_inj {i j : Nat} : ordinal i = ordinal j ↔ i = j := by
  unfold ordinal
  split <;> split <;> omega

inductive IntegerFault where
  | empty
  | invalidDigit
  | tooLarge
  | tooSmall
  deriving Repr, DecidableEq, Inhabited

def IntegerFault.message : IntegerFault → String
  | .empty => "cannot parse integer from empty string"
  | .invalidDigit => "invalid digit found in string"
  | .tooLarge => "number too large to fit in target type"
  | .tooSmall => "number too small to fit in target type"

def digit? (c : Char) : Option Nat :=
  if c.isDigit then some (c.toNat - '0'.toNat) else none

/-- Takes digits into `sum` as long as it stays within `limit`; `beyond` is the fault past it. -/
def readDigits (limit : Nat) (beyond : IntegerFault) (sum : Nat) :
    List Char → Except IntegerFault Nat
  | [] => .ok sum
  | c :: cs =>
    match digit? c with
    | none => .error .invalidDigit
    | some d =>
      if sum * 10 + d ≤ limit then readDigits limit beyond (sum * 10 + d) cs else .error beyond

/-- An unsigned number of 64 bits. A plus sign may stand before it, a minus sign may not. -/
def readNat (s : String) : Except IntegerFault Nat :=
  match s.toList with
  | [] => .error .empty
  | ['+'] => .error .invalidDigit
  | '+' :: cs => readDigits maxWord .tooLarge 0 cs
  | cs => readDigits maxWord .tooLarge 0 cs

def readInt (s : String) : Except IntegerFault Int :=
  match s.toList with
  | [] => .error .empty
  | ['+'] => .error .invalidDigit
  | ['-'] => .error .invalidDigit
  | '+' :: cs => (readDigits maxInt .tooLarge 0 cs).map Int.ofNat
  | '-' :: cs => (readDigits (maxInt + 1) .tooSmall 0 cs).map fun n => -Int.ofNat n
  | cs => (readDigits maxInt .tooLarge 0 cs).map Int.ofNat

end RackTelemetry.Number
