import Mathlib
import Gridwalk.Proofs.Decimals
import Gridwalk.Proofs.Rows
import Gridwalk.Proofs.VisitedCells

/-!
# Listings can be read back

A listing names every instruction of a grid once, in reading order, and place and character of
each can be found again in its text, however long the numbers are. So two grids have the same
listing exactly if they have the same instructions at the same places.
-/
namespace Gridwalk

namespace Listing

/-- A cell that is listed. -/
structure Item where
  row : Nat
  column : Nat
  cell : Char
  deriving DecidableEq, Repr

namespace Item

def line (i : Item) : List Char := Listing.line i.row i.column i.cell

/-- Row by row, and from left to right within a row. -/
def Before (i j : Item) : Prop := i.row < j.row ∨ (i.row = j.row ∧ i.column < j.column)

instance : Std.Irrefl Before where
  irrefl i h := by
    rcases h with h | ⟨-, h⟩
    · exact Nat.lt_irrefl _ h
    · exact Nat.lt_irrefl _ h

instance : Std.Antisymm Before where
  antisymm i j h h' := by
    unfold Before at h h'
    omega

/-- The number in a text, whatever stands around its digits. -/
def number (text : List Char) : Nat := Nat.ofDigitChars 10 (text.filter Char.isDigit) 0

/-- The numbers end with the colon and with the quote, and the cell stands behind the quote. -/
def read (line : List Char) : Item :=
  let place := line.dropWhile (· ≠ ':')
  { row := number (line.takeWhile (· ≠ ':'))
    column := number (place.takeWhile (· ≠ '\''))
    cell := (place.dropWhile (· ≠ '\''))[1]?.getD Grid.blank }

end Item

def cellItems (row column : Nat) (c : Char) : List Item :=
  if (Instruction.decode c).isNoop then [] else [⟨row, column, c⟩]

/-- The instructions of one row. -/
def rowItems (row : Nat) (cells : List Char) : List Item :=
  cells.zipIdx.flatMap fun (c, column) => cellItems row column c

/-- All instructions of a grid in reading order. -/
def items (g : Grid) : List Item :=
  g.toRows.zipIdx.flatMap fun (cells, row) => rowItems row cells

/-- Finds the items again that a listing was made of. -/
def read (text : List Char) : List Item := (Newline.cut text).map Item.read

theorem cellLine_eq (row column : Nat) (c : Char) :
    cellLine row column c = (cellItems row column c).flatMap Item.line := by
  unfold cellLine cellItems
  split
  · rfl
  · exact (List.append_nil _).symm

theorem rowLines_eq (row : Nat) (cells : List Char) :
    rowLines row cells = (rowItems row cells).flatMap Item.line := by
  unfold rowLines rowItems
  rw [List.flatMap_assoc]
  apply List.flatMap_congr
  rintro ⟨c, column⟩ _
  exact cellLine_eq row column c

theorem disassemble_eq (g : Grid) : disassemble g = (items g).flatMap Item.line := by
  unfold disassemble items
  rw [List.flatMap_assoc]
  apply List.flatMap_congr
  rintro ⟨cells, row⟩ _
  exact rowLines_eq row cells

theorem mem_cellItems {row column : Nat} {c : Char} {i : Item} :
    i ∈ cellItems row column c ↔ i = ⟨row, column, c⟩ ∧ Instruction.decode c ≠ .noop := by
  unfold cellItems
  cases h : (Instruction.decode c).isNoop with
  | true => simp_all [Instruction.isNoop]
  | false => simp_all [Instruction.isNoop]

theorem mem_rowItems {row : Nat} {cells : List Char} {i : Item} :
    i ∈ rowItems row cells ↔
      i.row = row ∧ cells[i.column]? = some i.cell ∧ Instruction.decode i.cell ≠ .noop := by
  unfold rowItems
  rw [List.mem_flatMap]
  constructor
  · rintro ⟨⟨c, column⟩, hc, hi⟩
    obtain ⟨rfl, hnoop⟩ := mem_cellItems.mp hi
    exact ⟨rfl, List.mk_mem_zipIdx_iff_getElem?.mp hc, hnoop⟩
  · rintro ⟨rfl, hc, hnoop⟩
    exact ⟨(i.cell, i.column), List.mk_mem_zipIdx_iff_getElem?.mpr hc,
      mem_cellItems.mpr ⟨rfl, hnoop⟩⟩

theorem mem_items {g : Grid} {i : Item} :
    i ∈ items g ↔ g.cell? i.row i.column = some i.cell ∧ Instruction.decode i.cell ≠ .noop := by
  unfold items
  rw [List.mem_flatMap, Grid.cell?_eq, Option.bind_eq_some_iff]
  constructor
  · rintro ⟨⟨cells, row⟩, hcells, hi⟩
    rw [List.mk_mem_zipIdx_iff_getElem?] at hcells
    obtain ⟨rfl, hc, hnoop⟩ := mem_rowItems.mp hi
    exact ⟨⟨cells, hcells, hc⟩, hnoop⟩
  · rintro ⟨⟨cells, hcells, hc⟩, hnoop⟩
    exact ⟨(cells, i.row), List.mk_mem_zipIdx_iff_getElem?.mpr hcells,
      mem_rowItems.mpr ⟨rfl, hc, hnoop⟩⟩

theorem pairwise_zipIdx {α : Type} (l : List α) : l.zipIdx.Pairwise fun a b => a.2 < b.2 := by
  have h : (l.zipIdx.map Prod.snd).Pairwise (· < ·) := by
    rw [List.zipIdx_map_snd]
    exact List.pairwise_lt_range'
  exact List.pairwise_map.mp h

theorem pairwise_rowItems (row : Nat) (cells : List Char) :
    (rowItems row cells).Pairwise Item.Before := by
  unfold rowItems
  rw [List.pairwise_flatMap]
  constructor
  · rintro ⟨c, column⟩ _
    dsimp only [cellItems]
    split
    · exact .nil
    · exact List.pairwise_singleton _ _
  · refine (pairwise_zipIdx cells).imp ?_
    rintro ⟨c, column⟩ ⟨d, column'⟩ hlt i hi j hj
    rw [(mem_cellItems.mp hi).1, (mem_cellItems.mp hj).1]
    exact .inr ⟨rfl, hlt⟩

theorem pairwise_items (g : Grid) : (items g).Pairwise Item.Before := by
  unfold items
  rw [List.pairwise_flatMap]
  constructor
  · rintro ⟨cells, row⟩ _
    exact pairwise_rowItems row cells
  · refine (pairwise_zipIdx g.toRows).imp ?_
    rintro ⟨cells, row⟩ ⟨cells', row'⟩ hlt i hi j hj
    rw [← (mem_rowItems.mp hi).1, ← (mem_rowItems.mp hj).1] at hlt
    exact .inl hlt

section Text

variable {α : Type} [DecidableEq α] {a : α} {l : List α}

theorem takeWhile_ne (h : a ∉ l) (rest : List α) :
    (l ++ a :: rest).takeWhile (· ≠ a) = l := by
  rw [List.takeWhile_append_of_pos, List.takeWhile_cons_of_neg, List.append_nil]
  · simp
  · intro b hb
    simpa using ne_of_mem_of_not_mem hb h

theorem dropWhile_ne (h : a ∉ l) (rest : List α) :
    (l ++ a :: rest).dropWhile (· ≠ a) = a :: rest := by
  rw [List.dropWhile_append_of_pos, List.dropWhile_cons_of_neg]
  · simp
  · intro b hb
    simpa using ne_of_mem_of_not_mem hb h

end Text

/-- A number with blanks around it. -/
def padded (left n right : Nat) : List Char :=
  List.replicate left ' ' ++ Decimal.writeNat n ++ List.replicate right ' '

theorem mem_padded {left n right : Nat} {c : Char} (h : c ∈ padded left n right) :
    c = ' ' ∨ c.isDigit = true := by
  rcases List.mem_append.mp h with h | h
  · rcases List.mem_append.mp h with h | h
    · exact .inl (List.eq_of_mem_replicate h)
    · exact .inr (Decimal.isDigit_of_mem_writeNat h)
  · exact .inl (List.eq_of_mem_replicate h)

theorem filter_padded (left n right : Nat) :
    (padded left n right).filter Char.isDigit = Decimal.writeNat n := by
  have hdigits : (Decimal.writeNat n).filter Char.isDigit = Decimal.writeNat n :=
    List.filter_eq_self.mpr fun c hc => Decimal.isDigit_of_mem_writeNat hc
  have hblanks : ∀ k, (List.replicate k ' ').filter Char.isDigit = [] := by
    intro k
    rw [List.filter_replicate]
    rfl
  rw [padded, List.filter_append, List.filter_append, hdigits, hblanks, hblanks,
    List.nil_append, List.append_nil]

/-- Blanks do not count, and neither does the mark between the numbers. -/
theorem number_padded {mark : List Char} (hmark : mark.filter Char.isDigit = [])
    (left n right : Nat) : Item.number (mark ++ padded left n right) = n := by
  rw [Item.number, List.filter_append, hmark, filter_padded]
  exact Nat.ofDigitChars_ten_toDigits

/-- A backslash is the only instruction that is escaped, and it is escaped by itself. -/
theorem escape_instruction {c : Char} (h : Instruction.decode c ≠ .noop) :
    ∃ rest, Quoted.escape '\'' c = c :: rest := by
  have table : (Instruction.vocabulary.all fun c =>
      decide ((Quoted.escape '\'' c).head? = some c)) = true := by
    decide +kernel
  have hmem := (Instruction.noop_or_mem_vocabulary c).resolve_left h
  exact List.head?_eq_some_iff.mp (of_decide_eq_true (List.all_eq_true.mp table c hmem))

theorem line_shape (row column : Nat) (c : Char) :
    ∃ left right, line row column c =
      padded left row 0 ++ ':' :: (padded 0 column right ++ '\'' ::
        (Quoted.escape '\'' c ++ ['\'', ' ', ' '] ++
          (Instruction.decode c).mnemonic.toList ++ ['\n'])) := by
  refine ⟨4 - (Decimal.writeNat row).length, 4 - (Decimal.writeNat column).length + 1, ?_⟩
  simp [line, padded, List.leftpad, List.rightpad, Quoted.char, List.replicate_succ']

theorem read_line (row column : Nat) {c : Char} (h : Instruction.decode c ≠ .noop) :
    Item.read (line row column c) = ⟨row, column, c⟩ := by
  obtain ⟨left, right, hline⟩ := line_shape row column c
  obtain ⟨rest, hescape⟩ := escape_instruction h
  have hcolon : ':' ∉ padded left row 0 := by
    intro hmem
    exact absurd (mem_padded hmem) (by decide)
  have hquote : '\'' ∉ ':' :: padded 0 column right := by
    intro hmem
    rcases List.mem_cons.mp hmem with hb | hmem
    · exact absurd hb (by decide)
    · exact absurd (mem_padded hmem) (by decide)
  have hrow : Item.number (padded left row 0) = row := by
    rw [← List.nil_append (padded left row 0)]
    exact number_padded rfl left row 0
  have hcolumn : Item.number (':' :: padded 0 column right) = column := by
    rw [← List.singleton_append]
    exact number_padded rfl 0 column right
  unfold Item.read
  dsimp only
  rw [hline, takeWhile_ne hcolon, dropWhile_ne hcolon, ← List.cons_append, takeWhile_ne hquote,
    dropWhile_ne hquote, hrow, hcolumn, hescape]
  rfl

/-- Numbers wider than their columns, and the character that is escaped. -/
example : Item.read (line 12345 678901 '\\') = ⟨12345, 678901, '\\'⟩ := by decide +kernel

theorem mnemonic_oneLine (i : Instruction) : OneLine i.mnemonic.toList := by
  cases i with
  | turn d => cases d <;> decide +kernel
  | _ => decide +kernel

theorem line_oneLine (row column : Nat) (c : Char) :
    ∃ body, OneLine body ∧ line row column c = body ++ ['\n'] := by
  have hblank : ∀ k, OneLine (List.replicate k ' ') := by
    intro k hmem
    exact absurd (List.eq_of_mem_replicate hmem) (by decide)
  have hrow : OneLine ((Decimal.writeNat row).leftpad 4 ' ') :=
    (hblank _).append (Decimal.writeNat_oneLine row)
  have hcolumn : OneLine ((Decimal.writeNat column).rightpad 4 ' ') :=
    (Decimal.writeNat_oneLine column).append (hblank _)
  refine ⟨_, ?_, rfl⟩
  refine OneLine.append (OneLine.append ?_ (by decide)) (mnemonic_oneLine _)
  refine OneLine.append (OneLine.append ?_ (by decide)) (Quoted.char_oneLine c)
  exact (hrow.append (by decide)).append hcolumn

theorem read_lines {listed : List Item} (h : ∀ i ∈ listed, Instruction.decode i.cell ≠ .noop) :
    read (listed.flatMap Item.line) = listed := by
  induction listed with
  | nil => rfl
  | cons i rest ih =>
    obtain ⟨body, hbody, hline⟩ := line_oneLine i.row i.column i.cell
    have hread : Item.read (body ++ ['\n']) = i := by
      rw [← hline]
      exact read_line i.row i.column (h i List.mem_cons_self)
    rw [List.flatMap_cons, Item.line, hline, List.append_assoc, List.singleton_append, read,
      Newline.cut_line hbody, List.map_cons, hread]
    exact congrArg (i :: ·) (ih fun j hj => h j (List.mem_cons_of_mem i hj))

/-- Nothing that matters is lost in a listing. -/
theorem read_disassemble (g : Grid) : read (disassemble g) = items g := by
  rw [disassemble_eq]
  exact read_lines fun i hi => (mem_items.mp hi).2

end Listing

namespace Grid

/-- Every cell has coordinates. -/
structure Addressable (g : Grid) : Prop where
  height : g.height < 2 ^ 63
  rowLength : ∀ row, g.rowLength row < 2 ^ 63

variable {g : Grid}

theorem addressable_ofRows {rows : List (List Char)} (hheight : rows.length < 2 ^ 63)
    (hlength : ∀ cells ∈ rows, cells.length < 2 ^ 63) : (ofRows rows).Addressable := by
  refine ⟨?_, fun row => ?_⟩
  · simpa [ofRows, height] using hheight
  · cases hrow : rows[row]? with
    | none => simp [ofRows, rowLength, hrow]
    | some cells =>
      have hcells := hlength cells (List.mem_of_getElem? hrow)
      simpa [ofRows, rowLength, hrow] using hcells

theorem lt_of_cell? {row column : Nat} {c : Char} (h : g.cell? row column = some c) :
    row < g.height ∧ column < g.rowLength row := by
  unfold cell? at h
  obtain ⟨cells, hcells, hc⟩ := Option.bind_eq_some_iff.mp h
  obtain ⟨hrow, -⟩ := Array.getElem?_eq_some_iff.mp hcells
  obtain ⟨hcolumn, -⟩ := Array.getElem?_eq_some_iff.mp hc
  refine ⟨hrow, ?_⟩
  simpa [rowLength, hcells] using hcolumn

theorem fetch_of_cell? {x y : Int64} {row column : Nat} {c : Char} (hx : x.toInt = column)
    (hy : y.toInt = row) (h : g.cell? row column = some c) : g.fetch x y = c := by
  unfold fetch
  rw [hx, hy]
  change (g.cell? row column).getD blank = c
  rw [h, Option.getD_some]

/-- Only a cell can be anything but a blank. -/
theorem cell?_of_fetch {x y : Int64} (h : g.fetch x y ≠ blank) :
    ∃ row column : Nat, x.toInt = column ∧ y.toInt = row ∧
      g.cell? row column = some (g.fetch x y) := by
  unfold fetch at h ⊢
  cases hx : x.toInt with
  | negSucc column => simp [hx] at h
  | ofNat column =>
    cases hy : y.toInt with
    | negSucc row => simp [hx, hy] at h
    | ofNat row =>
      refine ⟨row, column, rfl, rfl, ?_⟩
      rw [hx, hy] at h
      dsimp only at h ⊢
      cases hcell : g.cell? row column with
      | none => simp [hcell] at h
      | some c => rfl

theorem Addressable.exists_coordinates (hg : g.Addressable) {row column : Nat} {c : Char}
    (h : g.cell? row column = some c) :
    ∃ x y : Int64, x.toInt = column ∧ y.toInt = row := by
  obtain ⟨hrow, hcolumn⟩ := lt_of_cell? h
  have hheight := hg.height
  have hlength := hg.rowLength row
  refine ⟨Int64.ofNat column, Int64.ofNat row, ?_, ?_⟩
  · exact Int64.toInt_ofNat_of_lt (by omega)
  · exact Int64.toInt_ofNat_of_lt (by omega)

end Grid

namespace Listing

/-- What is listed of a grid are the instructions that can be fetched from it. -/
theorem mem_items_iff_fetch {g : Grid} (hg : g.Addressable) {i : Item} :
    i ∈ items g ↔ ∃ x y : Int64, x.toInt = i.column ∧ y.toInt = i.row ∧
      g.fetch x y = i.cell ∧ Instruction.decode i.cell ≠ .noop := by
  rw [mem_items]
  constructor
  · rintro ⟨hcell, hnoop⟩
    obtain ⟨x, y, hx, hy⟩ := hg.exists_coordinates hcell
    exact ⟨x, y, hx, hy, Grid.fetch_of_cell? hx hy hcell, hnoop⟩
  · rintro ⟨x, y, hx, hy, hfetch, hnoop⟩
    have hblank : g.fetch x y ≠ Grid.blank := by
      intro h
      rw [← hfetch, h] at hnoop
      exact hnoop rfl
    obtain ⟨row, column, hx', hy', hcell⟩ := Grid.cell?_of_fetch hblank
    have hrow : row = i.row := by omega
    have hcolumn : column = i.column := by omega
    rw [hrow, hcolumn, hfetch] at hcell
    exact ⟨hcell, hnoop⟩

section Pair

variable {g h : Grid}

theorem disassemble_eq_iff : disassemble g = disassemble h ↔ items g = items h := by
  constructor
  · intro heq
    rw [← read_disassemble, heq, read_disassemble]
  · intro heq
    rw [disassemble_eq, heq, ← disassemble_eq]

theorem items_subset (hg : g.Addressable) (hh : h.Addressable)
    (hsame : ∀ x y : Int64, Instruction.decode (g.fetch x y) ≠ .noop → g.fetch x y = h.fetch x y)
    {i : Item} (hi : i ∈ items g) : i ∈ items h := by
  obtain ⟨x, y, hx, hy, hfetch, hnoop⟩ := (mem_items_iff_fetch hg).mp hi
  rw [← hfetch] at hnoop
  have hcell := (hsame x y hnoop).symm.trans hfetch
  rw [hfetch] at hnoop
  exact (mem_items_iff_fetch hh).mpr ⟨x, y, hx, hy, hcell, hnoop⟩

theorem fetch_eq_of_items_subset (hg : g.Addressable) (hh : h.Addressable)
    (hsub : ∀ i, i ∈ items g → i ∈ items h) {x y : Int64}
    (hnoop : Instruction.decode (g.fetch x y) ≠ .noop) : g.fetch x y = h.fetch x y := by
  have hblank : g.fetch x y ≠ Grid.blank := by
    intro heq
    rw [heq] at hnoop
    exact hnoop rfl
  obtain ⟨row, column, hx, hy, -⟩ := Grid.cell?_of_fetch hblank
  have hitem : (⟨row, column, g.fetch x y⟩ : Item) ∈ items g :=
    (mem_items_iff_fetch hg).mpr ⟨x, y, hx, hy, rfl, hnoop⟩
  obtain ⟨x', y', hx', hy', hfetch, -⟩ := (mem_items_iff_fetch hh).mp (hsub _ hitem)
  obtain rfl : x = x' := Int64.toInt_inj.mp (hx.trans hx'.symm)
  obtain rfl : y = y' := Int64.toInt_inj.mp (hy.trans hy'.symm)
  exact hfetch.symm

theorem items_eq_iff (hg : g.Addressable) (hh : h.Addressable) :
    items g = items h ↔ ∀ x y : Int64,
      Instruction.decode (g.fetch x y) ≠ .noop ∨ Instruction.decode (h.fetch x y) ≠ .noop →
        g.fetch x y = h.fetch x y := by
  constructor
  · rintro heq x y (hnoop | hnoop)
    · exact fetch_eq_of_items_subset hg hh (fun i => heq ▸ id) hnoop
    · exact (fetch_eq_of_items_subset hh hg (fun i => heq ▸ id) hnoop).symm
  · intro hsame
    refine (pairwise_items g).eq_of_mem_iff (pairwise_items h) fun i => ⟨?_, ?_⟩
    · exact items_subset hg hh fun x y hnoop => hsame x y (.inl hnoop)
    · exact items_subset hh hg fun x y hnoop => (hsame x y (.inr hnoop)).symm

end Pair

/-- Listings are equal exactly if no instruction is different anywhere on the plane. Each
instruction is listed once and at its place, and the text tells them all again. -/
theorem listing_lossless {g h : Grid} (hg : g.Addressable) (hh : h.Addressable) :
    (disassemble g = disassemble h ↔ ∀ x y : Int64,
      Instruction.decode (g.fetch x y) ≠ .noop ∨ Instruction.decode (h.fetch x y) ≠ .noop →
        g.fetch x y = h.fetch x y) ∧
    disassemble g = (items g).flatMap Item.line ∧
    (items g).Pairwise Item.Before ∧
    (∀ i : Item, i ∈ items g ↔ ∃ x y : Int64, x.toInt = i.column ∧ y.toInt = i.row ∧
      g.fetch x y = i.cell ∧ Instruction.decode i.cell ≠ .noop) ∧
    read (disassemble g) = items g :=
  ⟨disassemble_eq_iff.trans (items_eq_iff hg hh), disassemble_eq g, pairwise_items g,
    fun _ => mem_items_iff_fetch hg, read_disassemble g⟩

/-- Blanks and other characters make no difference, but the two ways to write a swap do. -/
theorem listing_lossless_swapped :
    let g := Grid.ofRows [['\\'], [], ['x', '+']]
    let padded := Grid.ofRows [['\\', ' ', '\n'], ['\''], [' ', '+']]
    let slashed := Grid.ofRows [['/'], [], ['x', '+']]
    (∀ x y : Int64, Instruction.decode (g.fetch x y) ≠ .noop → g.fetch x y = padded.fetch x y) ∧
      disassemble g ≠ disassemble slashed ∧
      read (disassemble g) = [⟨0, 0, '\\'⟩, ⟨2, 1, '+'⟩] := by
  intro g padded slashed
  have hg : g.Addressable := Grid.addressable_ofRows (by decide) (by decide)
  have hpadded : padded.Addressable := Grid.addressable_ofRows (by decide) (by decide)
  have hslashed : slashed.Addressable := Grid.addressable_ofRows (by decide) (by decide)
  have hsame := (listing_lossless hg hpadded).1.mp (by decide +kernel)
  refine ⟨fun x y h => hsame x y (.inl h), ?_, ?_⟩
  · intro heq
    exact absurd ((listing_lossless hg hslashed).1.mp heq 0 0 (.inl (by decide))) (by decide)
  · rw [(listing_lossless hg hpadded).2.2.2.2]
    decide +kernel

end Listing

end Gridwalk
