import Gridwalk.Text.Decimal

/-!
# Clock readings

How long a run took and how fast it was, as texts for the statistics.
-/
namespace Gridwalk.Clock

/-- The quotient rounded to the nearest integer, a half to the even neighbour. -/
def roundedQuotient (numerator denominator : Nat) : Nat :=
  let quotient := numerator / denominator
  let twice := 2 * (numerator % denominator)
  if twice < denominator ∨ (twice = denominator ∧ quotient % 2 = 0) then quotient
  else quotient + 1

def hundredths (n : Nat) : List Char :=
  Decimal.writeNat (n / 100) ++ ['.'] ++ (Decimal.writeNat (n % 100)).leftpad 2 '0'

/-- A time span in the largest unit of which it holds at least one. -/
def elapsed (nanoseconds : Nat) : List Char :=
  let inUnit (size : Nat) (name : String) :=
    hundredths (roundedQuotient (100 * nanoseconds) size) ++ name.toList
  if 1000000000 ≤ nanoseconds then inUnit 1000000000 "s"
  else if 1000000 ≤ nanoseconds then inUnit 1000000 "ms"
  else if 1000 ≤ nanoseconds then inUnit 1000 "µs"
  else inUnit 1 "ns"

/-- Steps per second, or zero when the clock did not advance. -/
def rate (steps nanoseconds : Nat) : List Char :=
  if nanoseconds = 0 then ['0']
  else Decimal.writeNat (roundedQuotient (steps * 1000000000) nanoseconds)

end Gridwalk.Clock
