/-!
# Directions and instructions

A cell holds one character, and every character decodes to exactly one
instruction: what is outside the vocabulary is a no-op.
-/
namespace Gridwalk

inductive Direction where
  | right
  | up
  | left
  | down
  deriving DecidableEq, Repr, Inhabited

namespace Direction

/-- The offset `(dx, dy)` of one move. Row 0 is the top row, so going up lowers y. -/
def delta : Direction → Int64 × Int64
  | right => (1, 0)
  | up => (0, -1)
  | left => (-1, 0)
  | down => (0, 1)

def name : Direction → String
  | right => "Right"
  | up => "Up"
  | left => "Left"
  | down => "Down"

end Direction

inductive Instruction where
  | turn (direction : Direction)
  | pushZero
  | increment
  | decrement
  | duplicate
  | swap
  | readChar
  | readInt
  | discard
  | writeInt
  | writeChar
  | branchVertical
  | branchHorizontal
  | halt
  | noop
  deriving DecidableEq, Repr, Inhabited

namespace Instruction

def decode : Char → Instruction
  | '>' => turn .right
  | '<' => turn .left
  | '^' => turn .up
  | 'v' => turn .down
  | '!' => pushZero
  | '0' => pushZero
  | '+' => increment
  | '-' => decrement
  | ':' => duplicate
  | '\\' => swap
  | '/' => swap
  | '?' => readChar
  | '~' => readInt
  | '$' => discard
  | '.' => writeInt
  | ',' => writeChar
  | '|' => branchVertical
  | '_' => branchHorizontal
  | '@' => halt
  | _ => noop

def isNoop (i : Instruction) : Bool := i == noop

def mnemonic : Instruction → String
  | turn .right => "RIGHT"
  | turn .up => "UP"
  | turn .left => "LEFT"
  | turn .down => "DOWN"
  | pushZero => "ZERO"
  | increment => "INC"
  | decrement => "DEC"
  | duplicate => "DUP"
  | swap => "SWAP"
  | readChar => "READC"
  | readInt => "READI"
  | discard => "POP"
  | writeInt => "PRINTI"
  | writeChar => "PRINTC"
  | branchVertical => "VBRANCH"
  | branchHorizontal => "HBRANCH"
  | halt => "HALT"
  | noop => "NOP"

end Instruction

end Gridwalk
