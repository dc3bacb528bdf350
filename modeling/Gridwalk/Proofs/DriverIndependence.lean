import Gridwalk.Proofs.Agreement

/-!
# The count decides

On a device whose flushes all succeed, a session leaves nothing behind but the steps it
counted. How they were divided into runs, what limits were set and how often a failed step
was tried again is not seen in the state.
-/
namespace Gridwalk

/-- The same bytes in the same number of writes, on a device whose flushes all succeed. When
the flushes were made is left out. -/
structure Sink.SameWritten (s t : Sink) : Prop where
  device : s.device = t.device
  bytes : s.bytes = t.bytes
  writes : s.writes = t.writes
  steady : ∀ call held, s.device.refuseFlush call held = none

theorem Sink.SameWritten.flush_answer {s t : Sink} (h : SameWritten s t) :
    s.flush.1 = none := by
  simp [Sink.flush, h.steady]

theorem Sink.SameWritten.flushed {s t : Sink} (h : SameWritten s t) :
    SameWritten s.flush.2 t := by
  simp only [Sink.flush, h.steady]
  exact ⟨h.device, h.bytes, h.writes, h.steady⟩

theorem Sink.SameWritten.symm {s t : Sink} (h : SameWritten s t) : SameWritten t s :=
  ⟨h.device.symm, h.bytes.symm, h.writes.symm, h.device ▸ h.steady⟩

theorem Sink.SameWritten.trans {s t u : Sink} (h : SameWritten s t) (k : SameWritten t u) :
    SameWritten s u :=
  ⟨h.device.trans k.device, h.bytes.trans k.bytes, h.writes.trans k.writes, h.steady⟩

theorem Sink.congruence_sameWritten : Sink.Congruence SameWritten where
  flush h := ⟨h.flush_answer.trans h.symm.flush_answer.symm,
    (h.flushed.symm.flushed).symm⟩
  write := by
    intro s t piece h
    unfold Sink.write
    rw [h.device, h.bytes, h.writes]
    exact ⟨rfl, rfl, rfl, rfl, h.symm.steady⟩

namespace Machine

/-- What the count decides: everything but the configuration and the record of flushes. -/
structure SameCourse (a b : Machine) : Prop where
  x : a.x = b.x
  y : a.y = b.y
  direction : a.direction = b.direction
  stack : a.stack = b.stack
  steps : a.steps = b.steps
  halted : a.halted = b.halted
  input : a.input = b.input
  bytes : a.output.bytes = b.output.bytes

theorem SameCourse.symm {a b : Machine} (h : SameCourse a b) : SameCourse b a :=
  ⟨h.x.symm, h.y.symm, h.direction.symm, h.stack.symm, h.steps.symm, h.halted.symm,
    h.input.symm, h.bytes.symm⟩

theorem SameCourse.trans {a b c : Machine} (h : SameCourse a b) (k : SameCourse b c) :
    SameCourse a c :=
  ⟨h.x.trans k.x, h.y.trans k.y, h.direction.trans k.direction, h.stack.trans k.stack,
    h.steps.trans k.steps, h.halted.trans k.halted, h.input.trans k.input, h.bytes.trans k.bytes⟩

abbrev Resembles (a b : Machine) : Prop := Twin (· = ·) Sink.SameWritten a b

theorem Resembles.flushed {a b : Machine} (h : Resembles a b) : Resembles a.flush.2 b := by
  rw [flush_eq]
  exact ⟨⟨h.x, h.y, h.direction, h.stack, h.steps, h.halted, h.input, h.output.flushed⟩, h.grid⟩

theorem Resembles.symm {a b : Machine} (h : Resembles a b) : Resembles b a :=
  ⟨⟨h.x.symm, h.y.symm, h.direction.symm, h.stack.symm, h.steps.symm, h.halted.symm,
    h.input.symm, h.output.symm⟩, h.grid.symm⟩

theorem Resembles.trans {a b c : Machine} (h : Resembles a b) (k : Resembles b c) :
    Resembles a c :=
  ⟨⟨h.x.trans k.x, h.y.trans k.y, h.direction.trans k.direction, h.stack.trans k.stack,
    h.steps.trans k.steps, h.halted.trans k.halted, h.input.trans k.input,
    h.output.trans k.output⟩, h.grid.trans k.grid⟩

theorem Resembles.configured {a b : Machine} (h : Resembles a b) (config : Config) :
    Resembles (a.configure config) b :=
  ⟨⟨h.x, h.y, h.direction, h.stack, h.steps, h.halted, h.input, h.output⟩, h.grid⟩

end Machine

end Gridwalk
