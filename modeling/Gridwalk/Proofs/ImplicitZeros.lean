import Gridwalk.Proofs.Agreement

/-!
# Values below the bottom

A stack stands for an endless column of words of which all but the stored ones are zero. Two
stacks that stand for the same column may differ in depth. The instructions that look at the
depth do so only to give the answer that zeros would have given.
-/
namespace Gridwalk

namespace Stack

def value (s : Stack) (i : Nat) : Int64 := s.values.getD i 0

/-- Equal once both are continued below the bottom with zeros. -/
def SameColumn (s t : Stack) : Prop := ∀ i, s.value i = t.value i

@[simp] theorem value_push_zero (v : Int64) (s : Stack) : (s.push v).value 0 = v := rfl

@[simp] theorem value_push_succ (v : Int64) (s : Stack) (i : Nat) :
    (s.push v).value (i + 1) = s.value i := rfl

@[simp] theorem value_drop (s : Stack) (i : Nat) : s.drop.value i = s.value (i + 1) := by
  obtain ⟨values⟩ := s
  cases values <;> rfl

theorem top_eq_value (s : Stack) : s.top = s.value 0 := by
  obtain ⟨values⟩ := s
  cases values <;> rfl

theorem value_of_isEmpty {s : Stack} (h : s.isEmpty = true) (i : Nat) : s.value i = 0 := by
  obtain ⟨values⟩ := s
  cases values with
  | nil => rfl
  | cons v rest => simp [isEmpty] at h

/-- Filling up before the exchange only writes down zeros that were there already. -/
theorem swap_eq (s : Stack) : s.swap = (s.drop.drop.push s.top).push s.drop.top := by
  have hbelow : s.values.drop 2 = s.drop.drop.values := by
    rw [values_drop, values_drop, ← List.drop_one, ← List.drop_one, List.drop_drop]
  have hvalues : s.swap.values = ((s.drop.drop.push s.top).push s.drop.top).values := by
    rw [values_swap, hbelow, values_push, values_push]
  exact congrArg Stack.mk hvalues

namespace SameColumn

variable {s t : Stack}

theorem top (h : SameColumn s t) : s.top = t.top := by
  rw [top_eq_value, top_eq_value, h 0]

theorem drop (h : SameColumn s t) : SameColumn s.drop t.drop := by
  intro i
  rw [value_drop, value_drop, h (i + 1)]

theorem push (h : SameColumn s t) (v : Int64) : SameColumn (s.push v) (t.push v) := by
  intro i
  cases i with
  | zero => rfl
  | succ i => exact h i

theorem swap (h : SameColumn s t) : SameColumn s.swap t.swap := by
  rw [swap_eq, swap_eq, h.top, h.drop.top]
  exact (h.drop.drop.push _).push _

theorem addToTop (h : SameColumn s t) (delta : Int64) :
    SameColumn (s.addToTop delta) (t.addToTop delta) := by
  change SameColumn (s.drop.push (s.top + delta)) (t.drop.push (t.top + delta))
  rw [h.top]
  exact h.drop.push _

theorem duplicate (h : SameColumn s t) : SameColumn s.duplicate t.duplicate := by
  change SameColumn ((s.drop.push s.top).push s.top) ((t.drop.push t.top).push t.top)
  rw [h.top]
  exact (h.drop.push _).push _

/-- Putting back the value that decided a branch is unseen even on an empty stack. -/
theorem replace_below (s : Stack) :
    SameColumn (if s.isEmpty then s else s.drop.drop.push s.drop.top)
      (s.drop.drop.push s.drop.top) := by
  intro i
  split
  · rename_i hs
    have hdrop := value_of_isEmpty hs
    cases i with
    | zero => rw [value_push_zero, top_eq_value, value_drop, hdrop, hdrop]
    | succ i => simp [hdrop]
  · rfl

end SameColumn

theorem congruence_sameColumn : Congruence SameColumn where
  top := SameColumn.top
  drop := SameColumn.drop
  push v h := h.push v
  act := by
    intro s t i d h
    cases i with
    | pushZero => exact ⟨rfl, h.push 0⟩
    | increment => exact ⟨rfl, h.addToTop 1⟩
    | decrement => exact ⟨rfl, h.addToTop (-1)⟩
    | duplicate => exact ⟨rfl, h.duplicate⟩
    | swap => exact ⟨rfl, h.swap⟩
    | discard => exact ⟨rfl, h.drop⟩
    | branchVertical => exact ⟨by simp only [Instruction.act, h.top], h⟩
    | branchHorizontal =>
      refine ⟨by simp only [Instruction.act, h.drop.top], fun i => ?_⟩
      have hbelow := h.drop.drop.push t.drop.top i
      simp only [Instruction.act]
      rw [SameColumn.replace_below s i, SameColumn.replace_below t i, h.drop.top, hbelow]
    | _ => exact ⟨rfl, h⟩

def deepen (zeros : Nat) (s : Stack) : Stack := ⟨s.values ++ List.replicate zeros 0⟩

theorem deepen_column (zeros : Nat) (s : Stack) : SameColumn (s.deepen zeros) s := by
  intro i
  simp only [value, deepen, List.getD_eq_getElem?_getD]
  by_cases hi : i < s.values.length
  · rw [List.getElem?_append_left hi]
  · have hnone : s.values[i]? = none := List.getElem?_eq_none (by omega)
    rw [List.getElem?_append_right (by omega), List.getElem?_replicate, hnone]
    split <;> rfl

end Stack

namespace Machine

/-- In every respect the same machine, but its stack may lack or hold zeros at the bottom. -/
abbrev SameUpToZeros (a b : Machine) : Prop := Lockstep Stack.SameColumn (· = ·) a b

/-- As this is said of every list of calls, it is also said of the state between two of them.
A run that does not end runs out of the same fuel in both machines. -/
theorem implicit_zeros_unobservable :
    (∀ a b, SameUpToZeros a b → ∀ fuel calls,
      Option.Rel (SameAnswer SameUpToZeros) (a.performAll fuel calls) (b.performAll fuel calls)) ∧
    (∀ m : Machine, ∀ zeros fuel calls,
      Option.Rel (SameAnswer SameUpToZeros)
        ({ m with stack := m.stack.deepen zeros }.performAll fuel calls)
        (m.performAll fuel calls)) := by
  have sessions : ∀ a b, SameUpToZeros a b → ∀ fuel calls,
      Option.Rel (SameAnswer SameUpToZeros) (a.performAll fuel calls)
        (b.performAll fuel calls) := by
    intro a b h fuel calls
    exact performAll_lockstep Stack.congruence_sameColumn Sink.congruence_eq h fuel calls
  refine ⟨sessions, fun m zeros => sessions _ m ?_⟩
  exact ⟨⟨⟨rfl, rfl, rfl, m.stack.deepen_column zeros, rfl, rfl, rfl, rfl⟩, rfl⟩, rfl⟩

theorem implicit_zeros_unobservable_by_branch :
    let a := start (Grid.parse "|\n\\\n.\n@".toList) .eof .working
    let b := { a with stack := ⟨[0, 0, 0]⟩ }
    SameUpToZeros a b ∧
      Option.Rel (SameAnswer SameUpToZeros)
        (a.performAll 9 [.step, .configure ⟨some 7, true⟩, .run])
        (b.performAll 9 [.step, .configure ⟨some 7, true⟩, .run]) := by
  intro a b
  have hcolumn : Stack.SameColumn a.stack b.stack := by
    intro i
    match i with
    | 0 => rfl
    | 1 => rfl
    | 2 => rfl
    | _ + 3 => rfl
  have hab : SameUpToZeros a b := ⟨⟨⟨rfl, rfl, rfl, hcolumn, rfl, rfl, rfl, rfl⟩, rfl⟩, rfl⟩
  exact ⟨hab, implicit_zeros_unobservable.1 a b hab 9 _⟩

end Machine

end Gridwalk
