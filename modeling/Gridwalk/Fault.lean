import Gridwalk.Text.Decimal
import Gridwalk.Text.Quoted

/-!
# Faults

The conditions that end a run. Underflow of the stack and places off the grid are none. What
a device or the file system says about its own failures is kept as it was said.
-/
namespace Gridwalk

inductive Fault where
  | unreadableProgram (path : String) (cause : String)
  | inputExhausted (instruction : Char)
  | emptyCharInput
  | malformedInteger (line : List Char) (cause : IntegerFault)
  | invalidCodePoint (value : Int64)
  | input (cause : String)
  | output (cause : String)
  deriving DecidableEq, Repr, Inhabited

namespace Fault

/-- Paths and instruction characters are shown raw, an input line is shown quoted. -/
def message : Fault → String
  | unreadableProgram path _ => "cannot read program file " ++ path
  | inputExhausted instruction =>
    "input exhausted while executing '" ++ String.singleton instruction ++ "'"
  | emptyCharInput => "empty line given to character input '?'"
  | malformedInteger line _ =>
    "malformed integer input " ++ String.ofList (Quoted.text line)
  | invalidCodePoint value =>
    "value " ++ String.ofList (Decimal.writeInt value.toInt) ++
      " is not a valid character code point"
  | input _ => "failed to read standard input"
  | output _ => "failed to write standard output"

/-- What lies behind the fault, outermost first. -/
def causes : Fault → List String
  | unreadableProgram _ cause => [cause]
  | malformedInteger _ cause => [cause.message]
  | input cause => [cause]
  | output cause => [cause]
  | _ => []

/-- Exit status 1 stands for an unreadable program, 3 for bad or missing input, 4 for failed
or unprintable output. -/
def exitStatus : Fault → Nat
  | unreadableProgram .. => 1
  | inputExhausted _ => 3
  | emptyCharInput => 3
  | malformedInteger .. => 3
  | input _ => 3
  | invalidCodePoint _ => 4
  | output _ => 4

/-- The message followed by every cause, each after a colon. -/
def report (f : Fault) : String := ": ".intercalate (f.message :: f.causes)

end Fault

end Gridwalk
