import Mathlib
import Gridwalk.Proofs.Literals
import Gridwalk.Proofs.Sessions

/-!
# Straight segments

As long as nothing turns the pointer away and nothing reaches outside, the cells ahead of it are
sequential code: each of them is executed once, in its order, wherever it lies. Two segments one
behind the other do what the first does and then the second.
-/
namespace Gridwalk

open Decimal (InRange)

namespace Instruction

/-- What a pointer on its way in this direction passes without being turned away. -/
def Straight (d : Direction) (i : Instruction) : Prop :=
  i ∈ [pushZero, increment, decrement, duplicate, swap, discard, noop, turn d]

instance (d : Direction) : DecidablePred (Straight d) := fun i =>
  inferInstanceAs (Decidable (i ∈ [_, _, _, _, _, _, _, _]))

/-- The stack operation that an instruction stands for. Those of other kinds have none. -/
def onStack : Instruction → Stack → Stack
  | pushZero => .push 0
  | increment => .addToTop 1
  | decrement => .addToTop (-1)
  | duplicate => .duplicate
  | swap => .swap
  | discard => .drop
  | _ => id

theorem Straight.acts {d : Direction} {i : Instruction} (h : Straight d i) :
    i ≠ .halt ∧ i.isQuiet = true ∧ ∀ s, i.act d s = (d, i.onStack s) := by
  simp only [Straight, List.mem_cons, List.not_mem_nil, or_false] at h
  rcases h with rfl | rfl | rfl | rfl | rfl | rfl | rfl | rfl <;>
    exact ⟨by simp, rfl, fun _ => rfl⟩

end Instruction

/-- Applies the stack operations of instructions one after the other. -/
def Stack.replay (codes : List Instruction) (s : Stack) : Stack :=
  codes.foldl (fun s i => i.onStack s) s

theorem Stack.replay_append (codes codes' : List Instruction) (s : Stack) :
    s.replay (codes ++ codes') = (s.replay codes).replay codes' := List.foldl_append

theorem toInt_add_of_inRange {x δ : Int64} (h : InRange (x.toInt + δ.toInt)) :
    (x + δ).toInt = x.toInt + δ.toInt := by
  obtain ⟨hlow, hhigh⟩ := h
  rw [Int64.toInt_add]
  exact Int.bmod_eq_of_le (by omega) (by omega)

namespace Machine

/-- The place `n` moves ahead in the present direction, as if coordinates had no bounds. -/
def ahead (m : Machine) (n : Nat) : Int × Int :=
  (m.x.toInt + n * m.direction.delta.1.toInt, m.y.toInt + n * m.direction.delta.2.toInt)

/-- The machine has passed these codes. All that they changed is its place, the count of steps
and the stack. -/
structure Passed (m : Machine) (codes : List Instruction) (m' : Machine) : Prop where
  place : (m'.x.toInt, m'.y.toInt) = m.ahead codes.length
  steps : m'.steps = m.steps + codes.length
  stack : m'.stack = m.stack.replay codes
  direction : m'.direction = m.direction
  halted : m'.halted = m.halted
  input : m'.input = m.input
  output : m'.output = m.output
  grid : m'.grid = m.grid
  config : m'.config = m.config

variable {m u v : Machine} {codes codes' : List Instruction}

theorem ahead_zero (m : Machine) : m.ahead 0 = (m.x.toInt, m.y.toInt) := by
  simp [ahead]

theorem Passed.nil (m : Machine) : Passed m [] m :=
  ⟨m.ahead_zero.symm, rfl, rfl, rfl, rfl, rfl, rfl, rfl, rfl⟩

/-- Looking ahead after a segment is looking further ahead before it. -/
theorem Passed.ahead (h : Passed m codes u) (n : Nat) :
    u.ahead n = m.ahead (codes.length + n) := by
  obtain ⟨hx, hy⟩ := Prod.mk.inj h.place
  unfold Machine.ahead
  rw [hx, hy, h.direction]
  push_cast
  exact Prod.ext (by ring) (by ring)

theorem Passed.trans (h : Passed m codes u) (k : Passed u codes' v) :
    Passed m (codes ++ codes') v where
  place := by rw [k.place, h.ahead, List.length_append]
  steps := by rw [k.steps, h.steps, List.length_append, Nat.add_assoc]
  stack := by rw [k.stack, h.stack, Stack.replay_append]
  direction := k.direction.trans h.direction
  halted := k.halted.trans h.halted
  input := k.input.trans h.input
  output := k.output.trans h.output
  grid := k.grid.trans h.grid
  config := k.config.trans h.config

theorem step_quiet (hm : m.halted = false) (hi : Instruction.decode m.cell ≠ .halt)
    (hq : (Instruction.decode m.cell).isQuiet = true) :
    m.step = (.ok .running, { m.count with
      direction := ((Instruction.decode m.cell).act m.direction m.stack).1
      stack := ((Instruction.decode m.cell).act m.direction m.stack).2 }.advance) :=
  step_of_done hm hi (execute_quiet m.count hq)

end Machine

end Gridwalk
