import Gridwalk.Proofs.LineEnds

/-!
# Steps that read

A step that asks for a line and gets past its flush is decided by that line alone. The line is
taken in any case. Then either a word is made of it and the pointer moves on, or the step fails
and the pointer stays.
-/
namespace Gridwalk

namespace Machine

/-- What the cell makes of a line, if it is one that asks for a line. -/
def accepts (m : Machine) : List Char → Except Fault Int64 :=
  if m.cell = '?' then charWord else intWord

/-- The word that comes of the next line. -/
def reading (m : Machine) : Except Fault Int64 :=
  (m.input.readLine.1.mapError (Fault.ofLine m.cell)).bind m.accepts

/-- The machine that has counted its step and taken a line but made nothing of it yet. -/
def drawn (m : Machine) : Machine :=
  { m.count with output := m.output.flush.2, input := m.input.readLine.2 }

variable {m : Machine}

section Asking

variable (h : m.Asks) (hf : m.output.flush.1 = none)

include h

theorem execute_of_asks (a : Machine) :
    a.execute (Instruction.decode m.cell) = a.intake m.accepts := by
  obtain ⟨-, hcell | hcell⟩ := h
  · have haccepts : m.accepts = charWord := if_pos hcell
    rw [haccepts, hcell]
    exact a.execute_readChar
  · have haccepts : m.accepts = intWord := if_neg (by rw [hcell]; decide)
    rw [haccepts, hcell]
    exact a.execute_readInt

theorem not_halt_of_asks : Instruction.decode m.cell ≠ .halt := by
  obtain ⟨accept, hi, -⟩ := h.execute
  exact hi

include hf

/-- Whether a word comes of the line decides the answer, and the stack changes with it only. -/
theorem execute_drawn : m.count.execute (Instruction.decode m.cell) =
    (m.reading.map fun _ => (),
      { m.drawn with stack := m.reading.toOption.elim m.stack m.stack.push }) := by
  have hf' : m.count.output.flush.1 = none := hf
  have hinput : m.count.input = m.input := rfl
  rw [execute_of_asks h, intake, readLine_of_flushed hf', hinput, reading, drawn]
  cases m.input.readLine.1 with
  | error fault => rfl
  | ok line =>
    dsimp only [Except.mapError, Except.bind]
    cases m.accepts line <;> rfl

theorem step_of_rejected {f : Fault} (hr : m.reading = .error f) :
    m.step = (.error f, m.drawn) := by
  have hexecute := execute_drawn h hf
  rw [hr] at hexecute
  exact step_of_fault h.1 (not_halt_of_asks h) hexecute

theorem step_of_accepted {v : Int64} (hr : m.reading = .ok v) :
    m.step = (.ok .running, { m.drawn with stack := m.stack.push v }.advance) := by
  have hexecute := execute_drawn h hf
  rw [hr] at hexecute
  exact step_of_done h.1 (not_halt_of_asks h) hexecute

end Asking

theorem reading_of_line {line : List Char} {rest : Source}
    (h : m.input.readLine = (.ok line, rest)) :
    m.reading = m.accepts line ∧ m.drawn.input = rest := by
  rw [reading, drawn, h]
  exact ⟨rfl, rfl⟩

theorem reading_of_fault {fault : LineFault} {rest : Source}
    (h : m.input.readLine = (.error fault, rest)) :
    m.reading = .error (Fault.ofLine m.cell fault) ∧ m.drawn.input = rest := by
  rw [reading, drawn, h]
  exact ⟨rfl, rfl⟩

end Machine

end Gridwalk
