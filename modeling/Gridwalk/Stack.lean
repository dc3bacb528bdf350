/-!
# The data stack

Words of 64 bits, top first. Every operation is total: popping an empty stack
yields zero and leaves it empty, so a value nobody pushed reads as zero.
-/
namespace Gridwalk

/-- The stored values, top first. -/
structure Stack where
  values : List Int64 := []
  deriving DecidableEq, Repr, Inhabited

namespace Stack

/-- The stack whose values are listed bottom first, the order of every listing. -/
def ofBottomFirst (values : List Int64) : Stack := ⟨values.reverse⟩

def bottomFirst (s : Stack) : List Int64 := s.values.reverse

def isEmpty (s : Stack) : Bool := s.values.isEmpty

def size (s : Stack) : Nat := s.values.length

def push (v : Int64) (s : Stack) : Stack := ⟨v :: s.values⟩

/-- The top value, read as zero when there is none. -/
def top (s : Stack) : Int64 := s.values.headD 0

/-- What lies under the top; an empty stack stays empty. -/
def drop (s : Stack) : Stack := ⟨s.values.tail⟩

def pop (s : Stack) : Int64 × Stack := (s.top, s.drop)

/-- Exchanges the two topmost values. The empty stack first receives one zero, so the
result always holds two values, and a lone value ends up beneath a zero. -/
def swap (s : Stack) : Stack :=
  let (a, s) := (if s.isEmpty then s.push 0 else s).pop
  let (b, s) := s.pop
  (s.push a).push b

/-- Adds to the top value, modulo 2^64 in signed range; an empty stack becomes `[delta]`. -/
def addToTop (delta : Int64) (s : Stack) : Stack :=
  let (a, s) := s.pop
  s.push (a + delta)

def duplicate (s : Stack) : Stack :=
  let (a, s) := s.pop
  (s.push a).push a

@[simp] theorem bottomFirst_ofBottomFirst (values : List Int64) :
    (ofBottomFirst values).bottomFirst = values := List.reverse_reverse values

@[simp] theorem ofBottomFirst_bottomFirst (s : Stack) : ofBottomFirst s.bottomFirst = s := by
  simp [ofBottomFirst, bottomFirst]

@[simp] theorem values_push (v : Int64) (s : Stack) : (s.push v).values = v :: s.values := rfl

@[simp] theorem top_push (v : Int64) (s : Stack) : (s.push v).top = v := rfl

@[simp] theorem drop_push (v : Int64) (s : Stack) : (s.push v).drop = s := rfl

@[simp] theorem values_drop (s : Stack) : s.drop.values = s.values.tail := rfl

@[simp] theorem size_push (v : Int64) (s : Stack) : (s.push v).size = s.size + 1 := rfl

@[simp] theorem size_drop (s : Stack) : s.drop.size = s.size - 1 := by
  simp [size]

theorem isEmpty_iff_size (s : Stack) : s.isEmpty = true ↔ s.size = 0 := by
  simp [isEmpty, size]

/-- Swapping fills up to two values, whatever was there. -/
theorem values_swap (s : Stack) :
    s.swap.values = s.drop.top :: s.top :: s.values.drop 2 := by
  obtain ⟨values⟩ := s
  match values with
  | [] => rfl
  | [_] => rfl
  | _ :: _ :: _ => rfl

theorem values_addToTop (delta : Int64) (s : Stack) :
    (s.addToTop delta).values = (s.top + delta) :: s.values.tail := rfl

theorem values_duplicate (s : Stack) :
    s.duplicate.values = s.top :: s.top :: s.values.tail := rfl

@[simp] theorem size_swap (s : Stack) : s.swap.size = max s.size 2 := by
  simp only [size, values_swap, List.length_cons, List.length_drop]
  omega

@[simp] theorem size_addToTop (delta : Int64) (s : Stack) :
    (s.addToTop delta).size = max s.size 1 := by
  simp only [size, values_addToTop, List.length_cons, List.length_tail]
  omega

@[simp] theorem size_duplicate (s : Stack) : s.duplicate.size = max s.size 1 + 1 := by
  simp only [size, values_duplicate, List.length_cons, List.length_tail]
  omega

end Stack

end Gridwalk
