import Gridwalk.Grid
import Gridwalk.Instruction
import Gridwalk.Text.Decimal
import Gridwalk.Text.Quoted

/-!
# Listings

One line for every cell that is not a no-op, row by row and from left to right: its place,
its character in quotes and the name of its instruction.
-/
namespace Gridwalk.Listing

/-- Row and column are aligned around the colon; longer numbers take the room they need. -/
def line (row column : Nat) (c : Char) : List Char :=
  (Decimal.writeNat row).leftpad 4 ' ' ++ [':'] ++ (Decimal.writeNat column).rightpad 4 ' ' ++
    [' '] ++ Quoted.char c ++ [' ', ' '] ++ (Instruction.decode c).mnemonic.toList ++ ['\n']

def cellLine (row column : Nat) (c : Char) : List Char :=
  if (Instruction.decode c).isNoop then [] else line row column c

def rowLines (row : Nat) (cells : List Char) : List Char :=
  cells.zipIdx.flatMap fun (c, column) => cellLine row column c

def disassemble (g : Grid) : List Char :=
  g.toRows.zipIdx.flatMap fun (cells, row) => rowLines row cells

end Gridwalk.Listing
