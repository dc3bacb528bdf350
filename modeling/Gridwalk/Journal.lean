import Gridwalk.Instruction
import Gridwalk.Stack
import Gridwalk.Text.Decimal
import Gridwalk.Text.Quoted

/-!
# The journal of a traced run

One entry per executed step, taken before the step changes anything.
-/
namespace Gridwalk

structure Entry where
  step : Nat
  x : Int64
  y : Int64
  direction : Direction
  cell : Char
  stack : Stack
  deriving DecidableEq, Repr, Inhabited

namespace Entry

def stackText (s : Stack) : List Char :=
  '[' :: [',', ' '].intercalate (s.bottomFirst.map fun v => Decimal.writeInt v.toInt) ++ [']']

/-- One line without its end. -/
def line (e : Entry) : List Char :=
  "step=".toList ++ Decimal.writeNat e.step ++
  " x=".toList ++ Decimal.writeInt e.x.toInt ++
  " y=".toList ++ Decimal.writeInt e.y.toInt ++
  " dir=".toList ++ e.direction.name.toList ++
  " cmd=".toList ++ Quoted.char e.cell ++
  " stack=".toList ++ stackText e.stack

end Entry

end Gridwalk
