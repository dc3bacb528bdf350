/-!
# Line ends

CR LF and a lone CR both count as one LF. Cutting keeps the LF on the row it ends, so
nothing of the text is lost and no row is empty.
-/
namespace Gridwalk.Newline

/-- Drops the CR of every CR LF pair. -/
def joinPairs : List Char → List Char
  | [] => []
  | c :: rest =>
    if c = '\r' ∧ rest.head? = some '\n' then joinPairs rest else c :: joinPairs rest

/-- Writes every line end as one LF: first the pairs, then each CR that stands alone. -/
def unify (text : List Char) : List Char :=
  (joinPairs text).map fun c => if c = '\r' then '\n' else c

/-- Puts one more character before already cut rows; after an LF a new row begins. -/
def extend (c : Char) : List (List Char) → List (List Char)
  | [] => [[c]]
  | row :: rest => if c = '\n' then [c] :: row :: rest else (c :: row) :: rest

/-- Cuts a text after every LF. What follows the last LF is a row only if it is not empty. -/
def cut (text : List Char) : List (List Char) := text.foldr extend []

@[simp] theorem cut_nil : cut [] = [] := rfl

@[simp] theorem cut_cons (c : Char) (text : List Char) : cut (c :: text) = extend c (cut text) :=
  rfl

@[simp] theorem flatten_extend (c : Char) (rows : List (List Char)) :
    (extend c rows).flatten = c :: rows.flatten := by
  unfold extend
  split
  · rfl
  · split <;> simp

/-- Cutting loses nothing. -/
@[simp] theorem flatten_cut (text : List Char) : (cut text).flatten = text := by
  induction text with
  | nil => rfl
  | cons c rest ih => simp [ih]

end Gridwalk.Newline
