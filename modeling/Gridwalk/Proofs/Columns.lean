import Mathlib.Logic.Equiv.Basic
import Gridwalk.Proofs.ImplicitZeros

/-!
# Endless columns

The reference for the stack is a column of words that never ends, so that none of its operations
can lack an operand. Every sequence of operations pops the same words from a stack as from the
column it stands for and leaves them standing for each other. How deep the stack is by then
follows from the kinds of the operations alone.
-/
namespace Gridwalk

inductive Operation where
  | push (v : Int64)
  | pop
  | swap
  | addToTop (delta : Int64)
  deriving DecidableEq, Repr

namespace Operation

/-- An operation without its word. -/
inductive Kind where
  | push
  | pop
  | swap
  | addToTop
  deriving DecidableEq, Repr

def kind : Operation → Kind
  | push _ => .push
  | pop => .pop
  | swap => .swap
  | addToTop _ => .addToTop

/-- The depth an operation leaves behind. Those that rewrite operands first put in missing ones. -/
def Kind.depth (depth : Nat) : Kind → Nat
  | push => depth + 1
  | pop => depth - 1
  | swap => max depth 2
  | addToTop => max depth 1

/-- Carries out operations one after the other. What a pop took off is its answer, the others
answer nothing. -/
def performAll (perform : Operation → σ → Option Int64 × σ) :
    List Operation → σ → List (Option Int64) × σ
  | [], s => ([], s)
  | op :: rest, s =>
    let (answer, s) := perform op s
    let (answers, s) := performAll perform rest s
    (answer :: answers, s)

end Operation

/-- Words down a column without an end, the topmost at 0. -/
abbrev Column := Nat → Int64

namespace Column

def push (v : Int64) (c : Column) : Column
  | 0 => v
  | i + 1 => c i

def pop (c : Column) : Int64 × Column := (c 0, fun i => c (i + 1))

def swap (c : Column) : Column := c ∘ Equiv.swap 0 1

/-- The sum of two integers, brought back into the range of signed words modulo 2^64. -/
def addToTop (delta : Int64) (c : Column) : Column :=
  Function.update c 0 (Int64.ofInt ((c 0).toInt + delta.toInt))

def perform : Operation → Column → Option Int64 × Column
  | .push v, c => (none, c.push v)
  | .pop, c => (some c.pop.1, c.pop.2)
  | .swap, c => (none, c.swap)
  | .addToTop delta, c => (none, c.addToTop delta)

end Column

namespace Stack

open Operation (performAll)

def perform : Operation → Stack → Option Int64 × Stack
  | .push v, s => (none, s.push v)
  | .pop, s => (some s.pop.1, s.pop.2)
  | .swap, s => (none, s.swap)
  | .addToTop delta, s => (none, s.addToTop delta)

theorem value_push (v : Int64) (s : Stack) : (s.push v).value = Column.push v s.value := by
  funext i
  cases i <;> rfl

theorem value_pop (s : Stack) : Column.pop s.value = (s.pop.1, s.pop.2.value) := by
  have hbelow : (fun i => s.value (i + 1)) = s.drop.value := by
    funext i
    exact (s.value_drop i).symm
  exact Prod.ext s.top_eq_value.symm hbelow

/-- A short stack exchanges zeros, which the column has had there all along. -/
theorem value_swap (s : Stack) : s.swap.value = Column.swap s.value := by
  funext i
  rw [swap_eq]
  by_cases h0 : i = 0
  · subst h0
    simp [Column.swap, top_eq_value]
  · by_cases h1 : i = 1
    · subst h1
      simp [Column.swap, top_eq_value]
    · obtain ⟨k, rfl⟩ : ∃ k, i = k + 2 := ⟨i - 2, by omega⟩
      simp [Column.swap, Equiv.swap_apply_of_ne_of_ne h0 h1]

theorem value_addToTop (delta : Int64) (s : Stack) :
    (s.addToTop delta).value = Column.addToTop delta s.value := by
  have hsum : Int64.ofInt ((s.value 0).toInt + delta.toInt) = s.top + delta := by
    rw [Int64.ofInt_add, Int64.ofInt_toInt, Int64.ofInt_toInt, top_eq_value]
  funext i
  rw [Column.addToTop, hsum]
  cases i with
  | zero => rfl
  | succ i => exact s.value_drop i

/-- The same answer from both, and the stack stands for the column again. -/
theorem perform_value (op : Operation) (s : Stack) :
    Column.perform op s.value = ((s.perform op).1, (s.perform op).2.value) := by
  cases op with
  | push v => exact congrArg (Prod.mk none) (s.value_push v).symm
  | pop => rw [Column.perform, value_pop, perform]
  | swap => exact congrArg (Prod.mk none) s.value_swap.symm
  | addToTop delta => exact congrArg (Prod.mk none) (s.value_addToTop delta).symm

theorem performAll_value (ops : List Operation) (s : Stack) :
    performAll Column.perform ops s.value =
      ((performAll perform ops s).1, (performAll perform ops s).2.value) := by
  -- What the first operation leaves on both sides is where the remaining ones start.
  induction ops generalizing s with
  | nil => rfl
  | cons op rest ih =>
    have hrest := ih (s.perform op).2
    simp only [performAll, perform_value, hrest]

theorem size_perform (op : Operation) (s : Stack) :
    (s.perform op).2.size = op.kind.depth s.size := by
  cases op with
  | push v => exact s.size_push v
  | pop => exact s.size_drop
  | swap => exact s.size_swap
  | addToTop delta => exact s.size_addToTop delta

theorem size_performAll (ops : List Operation) (s : Stack) :
    (performAll perform ops s).2.size =
      (ops.map Operation.kind).foldl Operation.Kind.depth s.size := by
  induction ops generalizing s with
  | nil => rfl
  | cons op rest ih =>
    have hrest := ih (s.perform op).2
    rw [size_perform] at hrest
    exact hrest

/-- Nothing tells a stack from the endless column it stands for but its depth, and no word has
any part in that. -/
theorem refines_endless_column (s : Stack) (ops : List Operation) :
    (performAll perform ops s).1 = (performAll Column.perform ops s.value).1 ∧
    (performAll perform ops s).2.value = (performAll Column.perform ops s.value).2 ∧
    (performAll perform ops s).2.size =
      (ops.map Operation.kind).foldl Operation.Kind.depth s.size ∧
    ((performAll perform ops s).2.isEmpty = true ↔
      (ops.map Operation.kind).foldl Operation.Kind.depth s.size = 0) := by
  have hcolumn := performAll_value ops s
  have hsize := size_performAll ops s
  refine ⟨?_, ?_, hsize, ?_⟩
  · rw [hcolumn]
  · rw [hcolumn]
  · rw [isEmpty_iff_size, hsize]

/-- Popped past its bottom, the stack goes on with zeros; the exchange fills it up again. -/
example : performAll perform [.swap, .addToTop (-1), .pop, .pop, .pop, .swap] ⟨[5]⟩ =
    ([none, none, some (-1), some 5, some 0, none], ⟨[0, 0]⟩) := by decide

end Stack

end Gridwalk
