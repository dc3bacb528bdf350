import Mathlib
import Gridwalk.Proofs.BoundingBox
import Gridwalk.Proofs.History

/-!
# How fast a machine can grow

One step moves the pointer by one cell, makes the stack a little deeper and a word a little
larger. Words therefore stay small until an integer is read, and neither coordinates nor
words come near the ends of their range in any number of steps that can be taken.
-/
namespace Gridwalk

namespace Stack

def Below (bound : Nat) (s : Stack) : Prop := ∀ v ∈ s.values, v.toInt.natAbs ≤ bound

variable {bound : Nat} {s : Stack}

theorem Below.top (h : s.Below bound) : s.top.toInt.natAbs ≤ bound := by
  obtain ⟨values⟩ := s
  cases values with
  | nil => exact Nat.zero_le bound
  | cons v rest => exact h v List.mem_cons_self

theorem Below.drop (h : s.Below bound) : s.drop.Below bound :=
  fun v hv => h v (List.mem_of_mem_tail hv)

theorem Below.push {v : Int64} (h : s.Below bound) (hv : v.toInt.natAbs ≤ bound) :
    (s.push v).Below bound := by
  intro w hw
  rcases List.mem_cons.mp hw with rfl | hw
  · exact hv
  · exact h w hw

theorem Below.mono {larger : Nat} (h : s.Below bound) (hle : bound ≤ larger) :
    s.Below larger :=
  fun v hv => Nat.le_trans (h v hv) hle

/-- Not even a sum that wraps around is larger than this. -/
theorem natAbs_add_le (v : Int64) {δ : Int64} (hδ : δ.toInt.natAbs ≤ 1) :
    (v + δ).toInt.natAbs ≤ v.toInt.natAbs + 1 := by
  have hlow := v.le_toInt
  have hhigh := v.toInt_lt
  rw [Int64.toInt_add, Int.bmod_def]
  omega

theorem Below.addToTop (h : s.Below bound) {δ : Int64} (hδ : δ.toInt.natAbs ≤ 1) :
    (s.addToTop δ).Below (bound + 1) := by
  have htop := natAbs_add_le s.top hδ
  have hbound := h.top
  exact (h.drop.mono (Nat.le_succ bound)).push (by omega)

theorem Below.swap (h : s.Below bound) : s.swap.Below bound := by
  intro v hv
  rw [values_swap] at hv
  rcases List.mem_cons.mp hv with rfl | hv
  · exact h.drop.top
  · rcases List.mem_cons.mp hv with rfl | hv
    · exact h.top
    · exact h v (List.mem_of_mem_drop hv)

end Stack

namespace Instruction

variable {bound : Nat} {s : Stack}

theorem act_size (i : Instruction) (d : Direction) (s : Stack) :
    (i.act d s).2.size ≤ max (s.size + 1) 2 := by
  cases i with
  | increment | decrement | duplicate | discard | swap =>
    simp only [act, Stack.size_addToTop, Stack.size_duplicate, Stack.size_drop, Stack.size_swap]
    omega
  | branchHorizontal =>
    simp only [act]
    split
    · omega
    · rw [Stack.size_push, Stack.size_drop, Stack.size_drop]
      omega
  | pushZero => exact Nat.le_max_left _ _
  | _ => exact Nat.le_trans (Nat.le_succ _) (Nat.le_max_left _ _)

theorem act_below (i : Instruction) (d : Direction) (h : s.Below bound) :
    (i.act d s).2.Below (bound + 1) := by
  have hlarger : s.Below (bound + 1) := h.mono (Nat.le_succ bound)
  cases i with
  | pushZero => exact hlarger.push (Nat.zero_le _)
  | increment => exact h.addToTop (by decide)
  | decrement => exact h.addToTop (by decide)
  | duplicate => exact (hlarger.drop.push hlarger.top).push hlarger.top
  | swap => exact hlarger.swap
  | discard => exact hlarger.drop
  | branchHorizontal =>
    unfold act
    dsimp only
    split
    · exact hlarger
    · exact hlarger.drop.drop.push hlarger.drop.top
  | _ => exact hlarger

end Instruction

namespace Machine

/-- What a step can make of the stack. A failing write has dropped its word as well, and what is
read is a character or, only by an instruction that succeeds, an integer. -/
inductive Restacks (m : Machine) : Stack → Prop where
  | acts (i d) : Restacks m (Instruction.act i d m.stack).2
  | character (c) : Restacks m (m.stack.push (CodePoint.ofChar c))
  | integer (v) : m.cell = '~' → m.step.1 = .ok .running → Restacks m (m.stack.push v)

variable {m : Machine}

theorem Restacks.same (m : Machine) : Restacks m m.stack := .acts .noop .right

theorem Restacks.drops (m : Machine) : Restacks m m.stack.drop := .acts .discard .right

theorem intake_stack (accept : List Char → Except Fault Int64) :
    (m.intake accept).2.stack = m.stack ∨
    ∃ line v, accept line = .ok v ∧ (m.intake accept).1 = .ok () ∧
      (m.intake accept).2.stack = m.stack.push v := by
  have hkept : m.readLine.2.stack = m.stack := by
    cases hf : m.output.flush.1 with
    | some cause => rw [readLine_of_flush_failed hf]
    | none => rw [readLine_of_flushed hf]
  unfold intake
  rcases hr : m.readLine with ⟨f | line, e⟩ <;> rw [hr] at hkept
  · exact .inl hkept
  · dsimp only
    cases ha : accept line with
    | error f => exact .inl hkept
    | ok v => exact .inr ⟨line, v, ha, rfl, congrArg (Stack.push v) hkept⟩

theorem emit_stack (render : Int64 → Except Fault (List UInt8)) :
    (m.emit render).2.stack = m.stack.drop := by
  unfold emit
  cases render m.stack.top with
  | error f => rfl
  | ok piece => simp only [publish_eq]

/-- A step leaves the stack to its instruction and goes on when that succeeds. -/
theorem step_executes (hm : m.halted = false) (hi : Instruction.decode m.cell ≠ .halt) :
    m.step.2.stack = (m.count.execute (Instruction.decode m.cell)).2.stack ∧
      ((m.count.execute (Instruction.decode m.cell)).1 = .ok () → m.step.1 = .ok .running) := by
  rcases he : m.count.execute (Instruction.decode m.cell) with ⟨f | _, e⟩
  · rw [step_of_fault hm hi he]
    exact ⟨rfl, fun h => by cases h⟩
  · rw [step_of_done hm hi he]
    exact ⟨rfl, fun _ => rfl⟩

theorem step_restacks (m : Machine) : Restacks m m.step.2.stack := by
  cases hm : m.halted with
  | true =>
    rw [step_of_halted hm]
    exact .same m
  | false =>
    by_cases hi : Instruction.decode m.cell = .halt
    · rw [step_of_halt hm hi]
      exact .same m
    · obtain ⟨hstack, hgoes⟩ := step_executes hm hi
      rw [hstack]
      cases hd : Instruction.decode m.cell with
      | readChar =>
        rw [execute_readChar]
        rcases m.count.intake_stack charWord with hkept | ⟨line, v, hv, -, hpushed⟩
        · rw [hkept]
          exact .same m
        · rw [hpushed]
          cases line with
          | nil => cases hv
          | cons c rest =>
            cases hv
            exact .character c
      | readInt =>
        rw [hd, execute_readInt] at hgoes
        rw [execute_readInt]
        rcases m.count.intake_stack intWord with hkept | ⟨line, v, -, hdone, hpushed⟩
        · rw [hkept]
          exact .same m
        · have hcell : m.cell = '~' := (Instruction.decode_eq_iff (by simp) m.cell).mp hd
          rw [hpushed]
          exact .integer v hcell (hgoes hdone)
      | writeInt =>
        rw [execute_writeInt, emit_stack]
        exact .drops m
      | writeChar =>
        rw [execute_writeChar, emit_stack]
        exact .drops m
      | _ =>
        rw [execute_quiet _ rfl]
        exact .acts _ _

/-- The machine read an integer and went on with it. -/
def TakesInteger (m : Machine) : Prop := m.cell = '~' ∧ m.step.1 = .ok .running

/-- Depth and words of the stack grow by no more than one with every step, apart from the two
values that the first step may leave, characters and integers that were read. -/
structure Modest (past : List Machine) (m : Machine) : Prop where
  depth : m.stack.size ≤ m.steps + 1
  empty : m.steps = 0 → m.stack.size = 0
  words : (∀ u ∈ past, ¬ u.TakesInteger) → m.stack.Below (m.steps + 0x10FFFF)

theorem Restacks.size {s : Stack} (h : m.Restacks s) : s.size ≤ max (m.stack.size + 1) 2 := by
  cases h with
  | acts i d => exact Instruction.act_size i d m.stack
  | character c => exact Nat.le_max_left _ _
  | integer v => exact Nat.le_max_left _ _

theorem Restacks.below {s : Stack} {bound : Nat} (h : m.Restacks s) (hm : ¬ m.TakesInteger)
    (hbound : 0x10FFFF ≤ bound) (hs : m.stack.Below bound) : s.Below (bound + 1) := by
  cases h with
  | acts i d => exact Instruction.act_below i d hs
  | character c =>
    refine (hs.mono (Nat.le_succ bound)).push ?_
    have hscalar := CodePoint.toNat_lt c
    rw [CodePoint.toInt_ofChar]
    omega
  | integer v hcell hstep => exact absurd ⟨hcell, hstep⟩ hm

theorem Modest.step {past : List Machine} (h : Modest past m) (hm : m.halted = false) :
    Modest (past ++ [m]) m.step.2 := by
  have hstack := m.step_restacks
  have hsteps := step_steps hm
  refine ⟨?_, ?_, ?_⟩
  · have hsize := hstack.size
    have hdepth := h.depth
    have hempty := h.empty
    omega
  · intro hzero
    omega
  · intro hnone
    have hbefore := h.words fun u hu => hnone u (List.mem_append_left _ hu)
    rw [hsteps, Nat.add_right_comm]
    exact hstack.below (hnone m (by simp)) (Nat.le_add_left _ _) hbefore

theorem Modest.flush {past : List Machine} (h : Modest past m) : Modest past m.flush.2 := by
  rw [flush_eq]
  exact ⟨h.depth, h.empty, h.words⟩

theorem performAll_modest {g : Grid} {s : Source} {d : Device} {fuel : Nat} {calls : List Call}
    {replies : List Reply} (h : (start g s d).performAll fuel calls = some (replies, m)) :
    let past := (start g s d).history fuel calls
    Modest past m ∧ ∀ i u, past[i]? = some u → Modest (past.take i) u := by
  intro past
  obtain ⟨hnow, hearlier⟩ := performAll_throughout (P := fun _ => Modest)
    (fun _ past u hm hu => hu.step hm) (fun _ past u hu => hu.flush)
    (fun _ past config u hu => ⟨hu.depth, hu.empty, hu.words⟩) h
    ⟨Nat.zero_le _, fun _ => rfl, fun _ v hv => by cases hv⟩
  refine ⟨hnow, ?_⟩
  intro i u hu
  obtain ⟨-, hmodest⟩ := hearlier i u hu
  exact hmodest

/-- Without an integer that was read no sum on the stack can wrap around for a long time. -/
theorem Modest.top_add {past : List Machine} (h : Modest past m)
    (hnone : ∀ u ∈ past, ¬ u.TakesInteger) (hm : m.steps < 2 ^ 63 - 0x110000) {δ : Int64}
    (hδ : δ = 1 ∨ δ = -1) : (m.stack.top + δ).toInt = m.stack.top.toInt + δ.toInt := by
  have htop := (h.words hnone).top
  refine toInt_add_of_small ?_ (by omega)
  rcases hδ with rfl | rfl <;> decide

/-- For a very long time coordinates and depth cannot exceed the number of steps, nor words but
for one character. Within it nothing wraps around, in the next step or in those taken, unless an
integer was read before. -/
theorem growth_bounds {g : Grid} {s : Source} {d : Device} {fuel : Nat} {calls : List Call}
    {replies : List Reply} (h : (start g s d).performAll fuel calls = some (replies, m))
    (hm : m.steps < 2 ^ 63 - 0x110000) :
    let past := (start g s d).history fuel calls
    past.map steps = List.range m.steps ∧
    m.x.toInt.natAbs + m.y.toInt.natAbs ≤ m.steps ∧
    (∀ turned : Direction,
      (m.x + turned.delta.1).toInt = m.x.toInt + turned.delta.1.toInt ∧
      (m.y + turned.delta.2).toInt = m.y.toInt + turned.delta.2.toInt) ∧
    m.stack.size ≤ m.steps + 1 ∧ (m.steps = 0 → m.stack.size = 0) ∧
    ((∀ u ∈ past, ¬ (u.cell = '~' ∧ u.step.1 = .ok .running)) →
      (∀ v ∈ m.stack.values, v.toInt.natAbs ≤ m.steps + 0x10FFFF) ∧
      ∀ δ : Int64, δ = 1 ∨ δ = -1 → (m.stack.top + δ).toInt = m.stack.top.toInt + δ.toInt) ∧
    ∀ i u, past[i]? = some u → ∀ δ : Int64, δ = 1 ∨ δ = -1 →
      (u.stack.top + δ).toInt ≠ u.stack.top.toInt + δ.toInt →
      ∃ w ∈ past.take i, w.cell = '~' ∧ w.step.1 = .ok .running := by
  intro past
  obtain ⟨hmodest, hearlier⟩ := performAll_modest h
  obtain ⟨-, hroaming⟩ := reachable_roaming ⟨fuel, calls, replies, h⟩
  have hspread := (hroaming (by omega)).spread
  obtain ⟨hcount, -⟩ := start_history h
  refine ⟨hcount, hspread, ?_, hmodest.depth, hmodest.empty, ?_, ?_⟩
  · intro turned
    have hδ := turned.delta_cases
    exact ⟨toInt_add_of_small (by omega) (by omega), toInt_add_of_small (by omega) (by omega)⟩
  · exact fun hnone => ⟨hmodest.words hnone, fun δ => hmodest.top_add hnone hm⟩
  · intro i u hu δ hδ hwraps
    have hsteps : u.steps < m.steps := by
      rw [← List.mem_range, ← hcount]
      exact List.mem_map_of_mem (List.mem_of_getElem? hu)
    by_contra hnone
    refine hwraps ((hearlier i u hu).top_add ?_ (Nat.lt_trans hsteps hm) hδ)
    exact fun w hw htook => hnone ⟨w, hw, htook⟩

/-- The largest integer is read, and one more is added to it. -/
theorem growth_bounds_after_integer :
    let m₀ := start (Grid.parse "~+@".toList)
      (.ofBytes (Utf8.encode "9223372036854775807\n".toList)) .working
    let calls := [.step, .run, .configure {}, .run]
    ∃ replies m, m₀.performAll 9 calls = some (replies, m) ∧
      m.steps = 3 ∧ m.stack.values = [-9223372036854775808] ∧
      m.x.toInt.natAbs + m.y.toInt.natAbs ≤ 3 ∧ m.stack.size ≤ 4 ∧
      ∃ w ∈ (m₀.history 9 calls).take 1, w.cell = '~' ∧ w.step.1 = .ok .running := by
  intro m₀ calls
  have hlast : (m₀.performAll 9 calls).map (fun p => (p.2.steps, p.2.stack.values)) =
      some (3, [-9223372036854775808]) := by
    decide +kernel
  obtain ⟨⟨replies, m⟩, hcalls, hm⟩ := Option.map_eq_some_iff.mp hlast
  obtain ⟨hsteps, hvalues⟩ := Prod.mk.inj hm
  dsimp only at hsteps hvalues
  have htop : (m₀.history 9 calls)[1]?.map (fun u => u.stack.top) = some 9223372036854775807 := by
    decide +kernel
  obtain ⟨u, hu, hmax⟩ := Option.map_eq_some_iff.mp htop
  obtain ⟨-, hspread, -, hdepth, -, -, hread⟩ := growth_bounds hcalls (by omega)
  rw [hsteps] at hspread hdepth
  refine ⟨replies, m, hcalls, hsteps, hvalues, hspread, hdepth, hread 1 u hu 1 (.inl rfl) ?_⟩
  rw [hmax]
  decide

end Machine

end Gridwalk
