import Gridwalk.Text.Newline

/-!
# Programs as grids

Ragged rows of characters, row 0 on top. Rows keep their line end, so an LF is a cell like
any other, and they are never padded: every place without a cell reads as a blank.
-/
namespace Gridwalk

structure Grid where
  rows : Array (Array Char) := #[]
  deriving DecidableEq, Repr, Inhabited

namespace Grid

/-- What is read at a place without a cell. -/
def blank : Char := ' '

/-- The grid with exactly these rows, whatever characters they hold. -/
def ofRows (rows : List (List Char)) : Grid := ⟨(rows.map List.toArray).toArray⟩

def toRows (g : Grid) : List (List Char) := g.rows.toList.map Array.toList

/-- Cuts a program text into rows after its line ends have been made uniform. -/
def parse (text : List Char) : Grid := ofRows (Newline.cut (Newline.unify text))

def height (g : Grid) : Nat := g.rows.size

/-- The number of cells of a row, its line end included; zero for a missing row. -/
def rowLength (g : Grid) (row : Nat) : Nat := (g.rows[row]?.map Array.size).getD 0

def cell? (g : Grid) (row column : Nat) : Option Char := g.rows[row]?.bind (·[column]?)

/-- The character at column `x` of row `y`. Total over all coordinates, negative ones too. -/
def fetch (g : Grid) (x y : Int64) : Char :=
  match x.toInt, y.toInt with
  | .ofNat column, .ofNat row => (g.cell? row column).getD blank
  | _, _ => blank

@[simp] theorem toRows_ofRows (rows : List (List Char)) : (ofRows rows).toRows = rows := by
  simp [ofRows, toRows, Function.comp_def]

@[simp] theorem ofRows_toRows (g : Grid) : ofRows g.toRows = g := by
  simp [ofRows, toRows, Function.comp_def]

theorem cell?_eq (g : Grid) (row column : Nat) :
    g.cell? row column = g.toRows[row]?.bind (·[column]?) := by
  simp only [cell?, toRows, List.getElem?_map, Array.getElem?_toList]
  cases g.rows[row]? <;> simp

@[simp] theorem toRows_parse (text : List Char) :
    (parse text).toRows = Newline.cut (Newline.unify text) := toRows_ofRows _

end Grid

end Gridwalk
