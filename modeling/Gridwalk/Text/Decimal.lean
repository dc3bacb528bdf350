/-!
# Decimal integers

Written with the fewest digits and a minus sign when negative. Read from left to right: one
optional sign, then ASCII digits only. A character is tested for being a digit before the
value so far is tested for its range, so of two faults the one further left is reported.
-/
namespace Gridwalk

inductive IntegerFault where
  | empty
  | invalidDigit
  | tooLarge
  | tooSmall
  deriving DecidableEq, Repr, Inhabited

def IntegerFault.message : IntegerFault → String
  | empty => "cannot parse integer from empty string"
  | invalidDigit => "invalid digit found in string"
  | tooLarge => "number too large to fit in target type"
  | tooSmall => "number too small to fit in target type"

namespace Decimal

def writeNat (n : Nat) : List Char := Nat.toDigits 10 n

def writeInt (n : Int) : List Char :=
  if n < 0 then '-' :: writeNat n.natAbs else writeNat n.natAbs

/-- The value of an ASCII digit. Digits of other scripts have none. -/
def digit? (c : Char) : Option Nat :=
  if '0' ≤ c ∧ c ≤ '9' then some (c.toNat - '0'.toNat) else none

/-- Reads digits onto a magnitude that may never pass `bound`. -/
def accumulate (bound : Nat) (overflow : IntegerFault) : Nat → List Char → Except IntegerFault Nat
  | magnitude, [] => .ok magnitude
  | magnitude, c :: rest =>
    match digit? c with
    | none => .error .invalidDigit
    | some d =>
      if magnitude * 10 + d ≤ bound then accumulate bound overflow (magnitude * 10 + d) rest
      else .error overflow

/-- One or more digits. A sign with nothing after it ends up here with no digit at all. -/
def readDigits (bound : Nat) (overflow : IntegerFault) : List Char → Except IntegerFault Nat
  | [] => .error .invalidDigit
  | text => accumulate bound overflow 0 text

/-- Reads a signed 64-bit integer. The two signs have different bounds, because the range
reaches one further below zero than above. -/
def readInt64 : List Char → Except IntegerFault Int64
  | [] => .error .empty
  | '-' :: digits => (readDigits 0x8000000000000000 .tooSmall digits).map fun n => Int64.ofInt (-n)
  | '+' :: digits => (readDigits 0x7fffffffffffffff .tooLarge digits).map fun n => Int64.ofInt n
  | digits => (readDigits 0x7fffffffffffffff .tooLarge digits).map fun n => Int64.ofInt n

/-- Reads an unsigned 64-bit count, for which a minus sign is no valid character. -/
def readCount : List Char → Except IntegerFault Nat
  | [] => .error .empty
  | '+' :: digits => readDigits 0xffffffffffffffff .tooLarge digits
  | digits => readDigits 0xffffffffffffffff .tooLarge digits

end Decimal

end Gridwalk
