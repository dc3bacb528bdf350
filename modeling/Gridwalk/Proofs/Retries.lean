import Gridwalk.Proofs.DriverIndependence
import Gridwalk.Proofs.Failures

/-!
# Trying again after a rejected line

A cell that asks for a line and rejects it leaves the machine where it was, less that line. So
whoever drives the machine may step again until a line comes that the cell accepts, and nothing
but the count of steps tells how often that was.
-/
namespace Gridwalk

/-- A line that ends with its LF. -/
def Source.Ended (line : List UInt8) : Prop := ∃ body, lineFeed ∉ body ∧ line = body ++ [lineFeed]

theorem Source.Ended.gives {line : List UInt8} (h : Ended line) (rest : Source) :
    line ≠ [] ∧ (prepend line rest).Gives line none rest := by
  obtain ⟨body, hbody, rfl⟩ := h
  exact ⟨by simp, .whole rest hbody⟩

/-- The cell can make nothing of the line. -/
inductive Unfit : Char → List UInt8 → Prop where
  | notUtf8 {c line} : (∀ text, line ≠ Utf8.encode text) → Unfit c line
  | emptyLine {text} : Source.Strips text [] → Unfit '?' (Utf8.encode text)
  | notInteger {text line word} : Source.Strips text line → Blank.Trims line word →
      (∀ n, Decimal.Denotes word n → ¬ Decimal.InRange n) → Unfit '~' (Utf8.encode text)

/-- There is a reason for every rejection. -/
theorem Unfit.rejects {c : Char} {line : List UInt8} (h : Unfit c line) :
    ∃ f, Rejects c line f := by
  cases h with
  | notUtf8 hinvalid => exact ⟨_, .notUtf8 hinvalid⟩
  | emptyLine hstrips => exact ⟨_, .emptyLine hstrips⟩
  | @notInteger text line word hstrips htrims hnone =>
    cases hword : Decimal.readInt64 word with
    | error cause =>
      exact ⟨_, .notInteger hstrips htrims hnone (Decimal.readInt64_eq_error_iff.mp hword).2⟩
    | ok v => exact absurd (Decimal.inRange_toInt v) (hnone _ (Decimal.readInt64_eq_ok_iff.mp hword))

namespace Machine

/-- The same machine with another count and another journal. -/
def relabelled (steps : Nat) (journal : Array Entry) (m : Machine) : Machine :=
  { m with steps, journal }

/-- The same machine as if it had taken `k` more steps to get here. -/
def recounted (k : Nat) (m : Machine) : Machine := { m with steps := m.steps + k }

theorem intake_relabelled (accept : List Char → Except Fault Int64) (n : Nat)
    (journal : Array Entry) (m : Machine) :
    (m.relabelled n journal).intake accept =
      ((m.intake accept).1, (m.intake accept).2.relabelled n journal) := by
  cases hf : m.output.flush.1 with
  | some cause =>
    have hf' : (m.relabelled n journal).output.flush.1 = some cause := hf
    rw [intake, intake, readLine_of_flush_failed hf, readLine_of_flush_failed hf']
    rfl
  | none =>
    have hf' : (m.relabelled n journal).output.flush.1 = none := hf
    have hinput : (m.relabelled n journal).input = m.input := rfl
    rw [intake, intake, readLine_of_flushed hf, readLine_of_flushed hf', hinput]
    cases m.input.readLine.1 with
    | error fault => rfl
    | ok line =>
      dsimp only [Except.mapError]
      cases accept line <;> rfl

theorem emit_relabelled (render : Int64 → Except Fault (List UInt8)) (n : Nat)
    (journal : Array Entry) (m : Machine) :
    (m.relabelled n journal).emit render =
      ((m.emit render).1, (m.emit render).2.relabelled n journal) := by
  have hstack : (m.relabelled n journal).stack = m.stack := rfl
  rw [emit, emit, hstack]
  cases render m.stack.top with
  | error f => rfl
  | ok piece =>
    simp only [publish_eq]
    rfl

/-- No instruction looks at the count or at the journal. -/
theorem execute_relabelled (i : Instruction) (n : Nat) (journal : Array Entry) (m : Machine) :
    (m.relabelled n journal).execute i =
      ((m.execute i).1, (m.execute i).2.relabelled n journal) := by
  obtain hq | ⟨accept, -, hi⟩ | ⟨render, hi⟩ := execute_cases i
  · rw [execute_quiet _ hq, execute_quiet _ hq]
    rfl
  · rw [hi, hi]
    exact intake_relabelled accept n journal m
  · rw [hi, hi]
    exact emit_relabelled render n journal m

/-- Steps taken before are never seen again, except in the journal. -/
theorem step_recounted (k : Nat) (m : Machine) :
    (m.recounted k).step.1 = m.step.1 ∧
      ∃ journal, (m.recounted k).step.2 = { m.step.2.recounted k with journal } := by
  have ht := m.step_taken
  have hcell : (m.recounted k).cell = m.cell := rfl
  have hcount : (m.recounted k).count =
      m.count.relabelled (m.steps + k + 1) (m.recounted k).count.journal := rfl
  generalize hanswer : m.step.1 = answer, hafter : m.step.2 = m' at ht
  have hexecute : ∀ {result e}, m.count.execute (Instruction.decode m.cell) = (result, e) →
      (m.recounted k).count.execute (Instruction.decode (m.recounted k).cell) =
        (result, { e.recounted k with journal := (m.recounted k).count.journal }) := by
    intro result e he
    have hsteps : m.steps + k + 1 = e.steps + k := by
      rw [(execute_setting he).steps, Nat.add_right_comm]
      rfl
    rw [hcell, hcount, execute_relabelled, he, hsteps]
    rfl
  cases ht with
  | idle hm =>
    have hm' : (m.recounted k).halted = true := hm
    rw [step_of_halted hm']
    exact ⟨rfl, m.journal, rfl⟩
  | halt hm hi =>
    have hm' : (m.recounted k).halted = false := hm
    rw [step_of_halt hm' hi]
    refine ⟨rfl, (m.recounted k).count.journal, ?_⟩
    rw [count, count, recounted, recounted, Nat.add_right_comm]
  | fail hm hi he =>
    have hm' : (m.recounted k).halted = false := hm
    rw [step_of_fault hm' hi (hexecute he)]
    exact ⟨rfl, _, rfl⟩
  | move hm hi he =>
    have hm' : (m.recounted k).halted = false := hm
    rw [step_of_done hm' hi (hexecute he)]
    exact ⟨rfl, _, rfl⟩

variable {a b m : Machine}

theorem Resembles.step_recounted {k : Nat} (h : Resembles a (b.recounted k)) :
    a.step.1 = b.step.1 ∧ Resembles a.step.2 (b.step.2.recounted k) := by
  obtain ⟨hanswer, hafter⟩ := step_twin Stack.congruence_eq Sink.congruence_sameWritten h
  obtain ⟨hsame, journal, hstate⟩ := Machine.step_recounted k b
  rw [hstate] at hafter
  exact ⟨hanswer.trans hsame, ⟨hafter.x, hafter.y, hafter.direction, hafter.stack, hafter.steps,
    hafter.halted, hafter.input, hafter.output⟩, hafter.grid⟩

/-- Two machines of which one has counted more steps keep their distance. -/
theorem Resembles.after_recounted {k : Nat} (h : Resembles a (b.recounted k)) (n : Nat) :
    a.answers n = b.answers n ∧ Resembles (a.after n) ((b.after n).recounted k) := by
  induction n generalizing a b with
  | zero => exact ⟨rfl, h⟩
  | succ n ih =>
    obtain ⟨hanswer, hafter⟩ := h.step_recounted
    obtain ⟨hanswers, hend⟩ := ih hafter
    exact ⟨congrArg₂ List.cons hanswer hanswers, hend⟩

/-- The machine that has tried `k` times in vain and is left with `rest` to read. Besides the
count only the flushes made before each read and the traced steps are remembered. -/
def Retried (m : Machine) (k : Nat) (rest : Source) (m' : Machine) : Prop :=
  ∃ flushes delivered journal,
    m' = { m with
      input := rest
      steps := m.steps + k
      output := { m.output with flushes, delivered }
      journal }

section Trying

variable (h : m.Asks) (hsteady : ∀ call held, m.output.device.refuseFlush call held = none)

include h hsteady

/-- One line is rejected: the step fails, the line is gone and the rest is as it was. -/
theorem step_of_unfit {line : List UInt8} {rest : Source} (hline : Source.Ended line)
    (hinput : m.input = .prepend line rest) (hunfit : Unfit m.cell line) :
    ∃ f, Rejects m.cell line f ∧ m.step.1 = .error f ∧ m.Retried 1 rest m.step.2 := by
  obtain ⟨f, hrejects⟩ := hunfit.rejects
  obtain ⟨hne, hgives⟩ := hline.gives rest
  rw [← hinput] at hgives
  have hflush : m.output.flush = (none, { m.output with
      flushes := m.output.flushes.push m.output.bytes.size
      delivered := m.output.bytes.size }) := by
    simp only [Sink.flush, hsteady]
  have hrest : m.input.readLine.2 = rest := by rw [hgives.readLine]
  rw [step_of_rejected h (by rw [hflush]) (reading_of_rejects hne hgives hrejects)]
  refine ⟨f, hrejects, rfl, m.output.flushes.push m.output.bytes.size, m.output.bytes.size,
    m.count.journal, ?_⟩
  rw [drawn, hrest, hflush]
  rfl

/-- Line after line is rejected, each for its own reason. -/
theorem after_unfit {lines : List (List UInt8)} {rest : Source}
    (hinput : m.input = .prepend lines.flatten rest)
    (hlines : ∀ line ∈ lines, Source.Ended line ∧ Unfit m.cell line) :
    (∃ faults, m.answers lines.length = faults.map .error ∧
      List.Forall₂ (Rejects m.cell) lines faults) ∧
    m.Retried lines.length rest (m.after lines.length) := by
  induction lines generalizing m with
  | nil =>
    rw [List.flatten_nil, Source.prepend_nil] at hinput
    refine ⟨⟨[], rfl, .nil⟩, m.output.flushes, m.output.delivered, m.journal, ?_⟩
    rw [← hinput]
    rfl
  | cons line lines ih =>
    rw [List.flatten_cons, Source.prepend_append] at hinput
    obtain ⟨hline, hunfit⟩ := hlines line (by simp)
    obtain ⟨f, hrejects, hanswer, flushes, delivered, journal, hstep⟩ :=
      step_of_unfit h hsteady hline hinput hunfit
    -- The pointer has not moved, so the same cell is asked about the other lines.
    have hcell : m.step.2.cell = m.cell := by rw [hstep]; rfl
    have hasks : m.step.2.Asks := by rw [hstep]; exact h
    have hrest : m.step.2.input = .prepend lines.flatten rest := by rw [hstep]
    have hothers : ∀ other ∈ lines, Source.Ended other ∧ Unfit m.step.2.cell other := by
      intro other hother
      rw [hcell]
      exact hlines other (by simp [hother])
    obtain ⟨⟨faults, hanswers, hfaults⟩, flushes', delivered', journal', hafter⟩ :=
      ih hasks (by rw [hstep]; exact hsteady) hrest hothers
    rw [hcell] at hfaults
    refine ⟨⟨f :: faults, congrArg₂ List.cons hanswer hanswers, .cons hrejects hfaults⟩,
      flushes', delivered', journal', ?_⟩
    rw [List.length_cons, after, hafter, hstep, Nat.add_right_comm m.steps 1]
    rfl

end Trying

theorem Retried.resembles {k : Nat} {rest : Source} (h : m.Retried k rest a)
    (hsteady : ∀ call held, m.output.device.refuseFlush call held = none) :
    Resembles a ((m.fed rest).recounted k) := by
  obtain ⟨flushes, delivered, journal, rfl⟩ := h
  exact ⟨⟨rfl, rfl, rfl, rfl, rfl, rfl, rfl, rfl, rfl, rfl, hsteady⟩, rfl⟩

/-- Retrying works: what follows is what would have followed had the rejected lines never been
there, with the count ahead by their number. -/
theorem unfit_lines_skipped (h : m.Asks)
    (hsteady : ∀ call held, m.output.device.refuseFlush call held = none)
    {lines : List (List UInt8)} {rest : Source} (hinput : m.input = .prepend lines.flatten rest)
    (hlines : ∀ line ∈ lines, Source.Ended line ∧ Unfit m.cell line) :
    (∃ faults, m.answers lines.length = faults.map .error ∧
      List.Forall₂ (Rejects m.cell) lines faults) ∧
    m.Retried lines.length rest (m.after lines.length) ∧
    ∀ n, (m.after lines.length).answers n = (m.fed rest).answers n ∧
      Resembles ((m.after lines.length).after n)
        (((m.fed rest).after n).recounted lines.length) := by
  obtain ⟨hfaults, hretried⟩ := after_unfit h hsteady hinput hlines
  exact ⟨hfaults, hretried, (hretried.resembles hsteady).after_recounted⟩

/-- A line that is no text and one that is no integer, and then an integer. -/
theorem unfit_lines_skipped_before_integer :
    let lines := [[255, 10], [120, 10]]
    let rest := Source.ofBytes [52, 50, 10]
    let m := start (Grid.parse "~.@".toList) (.prepend lines.flatten rest) .working
    (∃ faults, m.answers lines.length = faults.map .error ∧
      List.Forall₂ (Rejects m.cell) lines faults) ∧
    (m.after lines.length).answers 3 = [.ok .running, .ok .running, .ok .halted] ∧
    ((m.after lines.length).after 3).output.bytes.toList = [52, 50, 10] := by
  intro lines rest m
  have hinvalid : ∀ text, [255, 10] ≠ Utf8.encode text :=
    Utf8.decode_eq_none_iff.mp (by decide +kernel)
  have htrims : Blank.Trims ['x'] ['x'] := Blank.trim_eq_iff.mp (by decide +kernel)
  have hread := Decimal.readInt64_eq_error_iff.mp
    (show Decimal.readInt64 ['x'] = .error .invalidDigit from rfl)
  have hletter : Unfit '~' (Utf8.encode ['x', '\n']) :=
    .notInteger (@Source.Strips.lf ['x'] (by decide)) htrims hread.1
  have hlines : ∀ line ∈ lines, Source.Ended line ∧ Unfit m.cell line := by
    intro line hline
    rcases List.mem_pair.mp hline with rfl | rfl
    · exact ⟨⟨[255], by decide, rfl⟩, .notUtf8 hinvalid⟩
    · exact ⟨⟨[120], by decide, rfl⟩, hletter⟩
  obtain ⟨hfaults, -, hahead⟩ :=
    unfit_lines_skipped (m := m) (by decide) (fun _ _ => rfl) rfl hlines
  obtain ⟨hanswers, hafter⟩ := hahead 3
  have hcourse : (m.fed rest).answers 3 = [.ok .running, .ok .running, .ok .halted] ∧
      ((m.fed rest).after 3).output.bytes.toList = [52, 50, 10] := by
    decide +kernel
  refine ⟨hfaults, hanswers.trans hcourse.1, ?_⟩
  generalize (m.fed rest).after 3 = last at hafter hcourse
  rw [hafter.output.bytes]
  exact hcourse.2

end Machine

end Gridwalk
