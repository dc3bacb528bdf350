import Gridwalk.Fault
import Gridwalk.Grid
import Gridwalk.Journal
import Gridwalk.Sink
import Gridwalk.Source
import Gridwalk.Text.Blank
import Gridwalk.Text.CodePoint

/-!
# The machine

A pointer walks over the grid, executes the cell it stands on and moves one cell on in its
direction. Leaving the grid ends nothing: the places out there are blanks. A step that fails
is counted and leaves behind what it had done so far, with the pointer still on its cell.
-/
namespace Gridwalk

structure Config where
  /-- Steps after which a run stops, counted from the very first; none to run until `@`. -/
  stepLimit : Option Nat := none
  trace : Bool := false
  deriving DecidableEq, Repr, Inhabited

inductive Status where
  | running
  | halted
  deriving DecidableEq, Repr, Inhabited

structure Machine where
  grid : Grid
  x : Int64 := 0
  y : Int64 := 0
  direction : Direction := .right
  stack : Stack := {}
  /-- Executed steps, halting and failing ones included. -/
  steps : Nat := 0
  halted : Bool := false
  input : Source
  output : Sink
  config : Config := {}
  journal : Array Entry := #[]

namespace Machine

/-- The machine before its first step: top left corner, moving right, nothing stored. -/
def start (grid : Grid) (input : Source) (device : Device) : Machine :=
  { grid, input, output := { device } }

def cell (m : Machine) : Char := m.grid.fetch m.x m.y

def configure (config : Config) (m : Machine) : Machine := { m with config }

def flush (m : Machine) : Except Fault Unit × Machine :=
  match m.output.flush with
  | (some cause, output) => (.error (.output cause), { m with output })
  | (none, output) => (.ok (), { m with output })

/-- Writes a piece of output and flushes it, so it survives a run that never ends. -/
def publish (piece : List UInt8) (m : Machine) : Except Fault Unit × Machine :=
  match m.output.publish piece with
  | (some cause, output) => (.error (.output cause), { m with output })
  | (none, output) => (.ok (), { m with output })

/-- Reads a line for the instruction under the pointer. Output is flushed first, so a prompt
is seen before the machine waits. -/
def readLine (m : Machine) : Except Fault (List Char) × Machine :=
  match m.flush with
  | (.error f, m) => (.error f, m)
  | (.ok (), m) =>
    match m.input.readLine with
    | (.error .exhausted, input) => (.error (.inputExhausted m.cell), { m with input })
    | (.error .notUtf8, input) => (.error (.input Utf8.invalid), { m with input })
    | (.error (.device cause), input) => (.error (.input cause), { m with input })
    | (.ok line, input) => (.ok line, { m with input })

def execute (i : Instruction) (m : Machine) : Except Fault Unit × Machine :=
  match i with
  | .turn direction => (.ok (), { m with direction })
  | .pushZero => (.ok (), { m with stack := m.stack.push 0 })
  | .increment => (.ok (), { m with stack := m.stack.addToTop 1 })
  | .decrement => (.ok (), { m with stack := m.stack.addToTop (-1) })
  | .duplicate => (.ok (), { m with stack := m.stack.duplicate })
  | .swap => (.ok (), { m with stack := m.stack.swap })
  | .discard => (.ok (), { m with stack := m.stack.drop })
  | .readChar =>
    match m.readLine with
    | (.error f, m) => (.error f, m)
    | (.ok [], m) => (.error .emptyCharInput, m)
    | (.ok (c :: _), m) => (.ok (), { m with stack := m.stack.push (CodePoint.ofChar c) })
  | .readInt =>
    match m.readLine with
    | (.error f, m) => (.error f, m)
    | (.ok line, m) =>
      match Decimal.readInt64 (Blank.trim line) with
      | .error cause => (.error (.malformedInteger line cause), m)
      | .ok v => (.ok (), { m with stack := m.stack.push v })
  | .writeInt =>
    let (v, stack) := m.stack.pop
    publish (Utf8.encode (Decimal.writeInt v.toInt ++ ['\n'])) { m with stack }
  | .writeChar =>
    let (v, stack) := m.stack.pop
    match CodePoint.toChar? v with
    | none => (.error (.invalidCodePoint v), { m with stack })
    | some c => publish (Utf8.encode [c]) { m with stack }
  | .branchVertical =>
    if m.stack.isEmpty then (.ok (), { m with direction := .down })
    else (.ok (), { m with direction := if m.stack.top = 0 then .down else .up })
  | .branchHorizontal =>
    if m.stack.isEmpty then (.ok (), { m with direction := .left })
    else
      -- The top goes; the value beneath it decides and stays.
      let (a, stack) := m.stack.drop.pop
      (.ok (), { m with
        stack := stack.push a
        direction := if a = 0 then .left else .right })
  | .halt => (.ok (), m)
  | .noop => (.ok (), m)

/-- Moves one cell on. Coordinates wrap around at the ends of their range. -/
def advance (m : Machine) : Machine :=
  { m with x := m.x + m.direction.delta.1, y := m.y + m.direction.delta.2 }

def entry (m : Machine) : Entry :=
  { step := m.steps, x := m.x, y := m.y, direction := m.direction, cell := m.cell,
    stack := m.stack }

/-- Counts the coming step and notes it down if the machine is traced. -/
def count (m : Machine) : Machine :=
  { m with
    steps := m.steps + 1
    journal := if m.config.trace then m.journal.push m.entry else m.journal }

/-- One step. A halted machine does nothing more. -/
def step (m : Machine) : Except Fault Status × Machine :=
  if m.halted then (.ok .halted, m)
  else
    let i := Instruction.decode m.cell
    if i = .halt then (.ok .halted, { m.count with halted := true })
    else
      match m.count.execute i with
      | (.error f, m) => (.error f, m)
      | (.ok (), m) => (.ok .running, m.advance)

end Machine

end Gridwalk
