import Mathlib
import Gridwalk.Proofs.Characters
import Gridwalk.Proofs.FailedSteps
import Gridwalk.Proofs.IntegerLines

/-!
# When a step fails

As long as the device does what it is asked for, a step fails only at its input or at a word that
is no character. No place on or off the grid, no depth of the stack and no value on it makes any
other step fail.
-/
namespace Gridwalk

/-- The lines that a cell rejects, with the fault that tells why. What is not even text is
rejected before the cell looks at it. -/
inductive Rejects : Char → List UInt8 → Fault → Prop where
  | notUtf8 {c line} : (∀ text, line ≠ Utf8.encode text) → Rejects c line (.input Utf8.invalid)
  | emptyLine {text} : Source.Strips text [] → Rejects '?' (Utf8.encode text) .emptyCharInput
  | notInteger {text line word cause} : Source.Strips text line → Blank.Trims line word →
      (∀ n, Decimal.Denotes word n → ¬ Decimal.InRange n) → Decimal.Explains word cause →
      Rejects '~' (Utf8.encode text) (.malformedInteger line cause)

namespace Machine

/-- How a step can fail while the device does not, with `bytes` as the rest of the input. -/
inductive Fails (m : Machine) (bytes : List UInt8) : Fault → Prop where
  | exhausted : m.cell = '?' ∨ m.cell = '~' → bytes = [] →
      Fails m bytes (.inputExhausted m.cell)
  | rejected {line f} : m.cell = '?' ∨ m.cell = '~' →
      (Source.lines bytes).head? = some line → Rejects m.cell line f → Fails m bytes f
  | unprintable : m.cell = ',' → ¬ CodePoint.IsScalar m.stack.top →
      Fails m bytes (.invalidCodePoint m.stack.top)

/-- There is no cell where the pointer stands. -/
def OffGrid (m : Machine) : Prop :=
  m.x.toInt < 0 ∨ m.y.toInt < 0 ∨ m.grid.cell? m.y.toInt.toNat m.x.toInt.toNat = none

variable {m : Machine}

theorem cell_of_offGrid (h : m.OffGrid) : m.cell = Grid.blank := by
  rw [cell, Grid.fetch]
  unfold OffGrid at h
  cases hx : m.x.toInt with
  | negSucc n => rfl
  | ofNat column =>
    cases hy : m.y.toInt with
    | negSucc n => rfl
    | ofNat row =>
      rw [hx, hy] at h
      have hnone : m.grid.cell? row column = none := by
        rcases h with h | h | h
        · exact absurd h (by simp)
        · exact absurd h (by simp)
        · exact h
      dsimp only
      rw [hnone]
      rfl

section Reading

variable {line : List UInt8} {rest : Source} (hne : line ≠ [])
  (hgives : m.input.Gives line none rest)

include hne hgives

theorem reading_of_rejects {f : Fault} (h : Rejects m.cell line f) : m.reading = .error f := by
  generalize hcell : m.cell = c at h
  cases h with
  | notUtf8 hinvalid => exact (reading_of_fault (Source.readLine_invalid hne hgives hinvalid)).1
  | @emptyLine text hstrips =>
    have htext := Utf8.encode_eq_nil_iff.not.mp hne
    rw [(reading_of_line (Source.readLine_text htext hgives hstrips)).1, accepts, if_pos hcell]
    rfl
  | @notInteger text line word cause hstrips htrims hnone hcause =>
    have htext := Utf8.encode_eq_nil_iff.not.mp hne
    have hcell' : m.cell ≠ '?' := by rw [hcell]; decide
    rw [(reading_of_line (Source.readLine_text htext hgives hstrips)).1, accepts, if_neg hcell',
      intWord_eq_error_iff htrims]
    exact ⟨cause, rfl, hnone, hcause⟩

theorem rejects_of_reading (hcell : m.cell = '?' ∨ m.cell = '~') {f : Fault}
    (h : m.reading = .error f) : Rejects m.cell line f := by
  cases hd : Utf8.decode line with
  | none =>
    have hinvalid := Utf8.decode_eq_none_iff.mp hd
    rw [(reading_of_fault (Source.readLine_invalid hne hgives hinvalid)).1] at h
    cases h
    exact .notUtf8 hinvalid
  | some text =>
    obtain rfl := Utf8.decode_eq_some_iff.mp hd
    have htext := Utf8.encode_eq_nil_iff.not.mp hne
    have hstrips := Source.strips_dropTerminator text
    rw [(reading_of_line (Source.readLine_text htext hgives hstrips)).1, accepts] at h
    rcases hcell with hcell | hcell
    · rw [if_pos hcell] at h
      rw [hcell]
      cases hline : Source.dropTerminator text with
      | nil =>
        rw [hline] at h hstrips
        cases h
        exact .emptyLine hstrips
      | cons c line =>
        rw [hline] at h
        cases h
    · rw [if_neg (by rw [hcell]; decide),
        intWord_eq_error_iff (Blank.trims_trim (Source.dropTerminator text))] at h
      obtain ⟨cause, rfl, hnone, hcause⟩ := h
      rw [hcell]
      exact .notInteger hstrips (Blank.trims_trim _) hnone hcause

end Reading

theorem step_error_iff_of_asks (h : m.Asks) (hf : m.output.flush.1 = none) {f : Fault} :
    m.step.1 = .error f ↔ m.reading = .error f := by
  cases hr : m.reading with
  | error first =>
    rw [step_of_rejected h hf hr]
    simp
  | ok v =>
    rw [step_of_accepted h hf hr]
    simp

/-- Besides reading there is only writing that can fail, and a word is what it fails at. -/
theorem unprintable_of_error (hd : m.output.device = .working) (hasks : ¬ m.Asks) {f : Fault}
    (h : m.step.1 = .error f) :
    m.Executes ',' ∧ ¬ CodePoint.IsScalar m.stack.top ∧ f = .invalidCodePoint m.stack.top := by
  obtain ⟨hm, he⟩ := step_failed h
  obtain ⟨accept, hread, -⟩ | ⟨render, hwrite, hemit, hrender⟩ := execute_error_cases he
  · exact absurd ⟨hm, (Instruction.decode_reads_iff m.cell).mp hread⟩ hasks
  · obtain ⟨hf, -⟩ | ⟨piece, cause, -, hcause, -⟩ := emit_failed hemit
    · obtain ⟨-, rfl⟩ | ⟨hi, rfl⟩ := hwrite
      · cases hf
      · have hcell : m.cell = ',' := (Instruction.decode_eq_iff (by simp) m.cell).mp hi
        refine ⟨⟨hm, hcell⟩, fun hv => ?_, hrender _ f hf⟩
        obtain ⟨c, hc⟩ := CodePoint.exists_char_of_isScalar hv
        have hc' : CodePoint.toChar? m.count.stack.top = some c := hc
        rw [charText, hc'] at hf
        cases hf
    · rw [Sink.publish_working (s := m.count.output) hd piece] at hcause
      cases hcause

theorem step_of_offGrid (hm : m.halted = false) (h : m.OffGrid) : m.step.1 = .ok .running := by
  have hi : Instruction.decode m.cell = .noop := by
    rw [cell_of_offGrid h]
    rfl
  have hexecute : m.count.execute (Instruction.decode m.cell) = (.ok (), m.count) := by
    rw [hi]
    rfl
  rw [step_of_done hm (by simp [hi]) hexecute]

section InMemory

variable (hm : m.halted = false) (hd : m.output.device = .working) {bytes : List UInt8}
  (hinput : m.input = .ofBytes bytes)

include hd hinput

theorem fails_of_error {f : Fault} (h : m.step.1 = .error f) : m.Fails bytes f := by
  have hf := Sink.flush_working hd
  by_cases hasks : m.Asks
  · by_cases hbytes : bytes = []
    · have heof : m.input = .eof := by rw [hinput, hbytes]; rfl
      rw [step_of_eof hasks hf heof] at h
      cases h
      exact .exhausted hasks.2 hbytes
    · obtain ⟨line, rest, hne, -, hlines, hgives⟩ := Source.exists_first_line hbytes
      rw [← hinput] at hgives
      rw [step_error_iff_of_asks hasks hf] at h
      exact .rejected hasks.2 (by rw [hlines]; rfl) (rejects_of_reading hne hgives hasks.2 h)
  · obtain ⟨hcomma, hv, rfl⟩ := unprintable_of_error hd hasks h
    exact .unprintable hcomma.2 hv

include hm

theorem Fails.step_error {f : Fault} (h : m.Fails bytes f) : m.step.1 = .error f := by
  have hf := Sink.flush_working hd
  cases h with
  | exhausted hcell hbytes =>
    have heof : m.input = .eof := by rw [hinput, hbytes]; rfl
    exact step_of_eof ⟨hm, hcell⟩ hf heof
  | @rejected line f hcell hhead hrejects =>
    have hbytes : bytes ≠ [] := by
      rintro rfl
      cases hhead
    obtain ⟨first, rest, hne, -, hlines, hgives⟩ := Source.exists_first_line hbytes
    rw [hlines] at hhead
    cases hhead
    rw [← hinput] at hgives
    rw [step_error_iff_of_asks ⟨hm, hcell⟩ hf]
    exact reading_of_rejects hne hgives hrejects
  | unprintable hcell hv => exact step_unprintable ⟨hm, hcell⟩ hv

end InMemory

theorem not_fails_of_cell {bytes : List UInt8} (h : m.cell ∉ ['?', '~', ',']) (f : Fault) :
    ¬ m.Fails bytes f := by
  intro hfails
  cases hfails with
  | exhausted hread _ => rcases hread with hread | hread <;> simp [hread] at h
  | rejected hread _ _ => rcases hread with hread | hread <;> simp [hread] at h
  | unprintable hcomma _ => simp [hcomma] at h

/-- Of two reasons to fail the one that is met first counts: the end of the data, then the
encoding of the line, then what it says. -/
theorem step_fails_iff (hm : m.halted = false) (hd : m.output.device = .working)
    {bytes : List UInt8} (hinput : m.input = .ofBytes bytes) :
    (∀ f, m.step.1 = .error f ↔ m.Fails bytes f) ∧
    ((∀ f, ¬ m.Fails bytes f) → ∃ status, m.step.1 = .ok status) ∧
    (m.OffGrid ∨ m.cell ∉ ['?', '~', ','] → ∃ status, m.step.1 = .ok status) := by
  have hok : (∀ f, ¬ m.Fails bytes f) → ∃ status, m.step.1 = .ok status := by
    intro hnone
    cases hstep : m.step.1 with
    | ok status => exact ⟨status, rfl⟩
    | error f => exact absurd (fails_of_error hd hinput hstep) (hnone f)
  refine ⟨fun f => ⟨fails_of_error hd hinput, Fails.step_error hm hd hinput⟩, hok, ?_⟩
  rintro (hoff | hcell)
  · exact ⟨.running, step_of_offGrid hm hoff⟩
  · exact hok (not_fails_of_cell hcell)

/-- One machine for each fault. The place left of the reading cell is off the grid, and there the
end of the data is no fault. -/
theorem step_fails_iff_at_each_cause :
    let at_cell := fun c bytes stack =>
      { start (Grid.ofRows [[c]]) (.ofBytes bytes) .working with stack := ⟨stack⟩ }
    (at_cell '?' [255, 10] []).step.1 = .error (.input Utf8.invalid) ∧
      (at_cell '?' [13, 10, 65] []).step.1 = .error .emptyCharInput ∧
      (at_cell '~' [32, 45, 10, 53] []).step.1 =
        .error (.malformedInteger [' ', '-'] .invalidDigit) ∧
      (at_cell '~' [] []).step.1 = .error (.inputExhausted '~') ∧
      (at_cell ',' [] [0xDFFF]).step.1 = .error (.invalidCodePoint 0xDFFF) ∧
      ∃ status, { at_cell '?' [] [] with x := -1 }.step.1 = .ok status := by
  intro at_cell
  have hfails := fun c bytes stack =>
    (step_fails_iff (m := at_cell c bytes stack) rfl rfl (show _ = Source.ofBytes bytes from rfl)).1
  refine ⟨?_, ?_, ?_, ?_, ?_, ?_⟩
  · have hinvalid : ∀ text, [255, 10] ≠ Utf8.encode text :=
      Utf8.decode_eq_none_iff.mp (by decide +kernel)
    exact (hfails '?' [255, 10] [] _).mpr (.rejected (.inl rfl) rfl (.notUtf8 hinvalid))
  · have hstrips : Source.Strips ['\r', '\n'] [] := .pair []
    exact (hfails '?' [13, 10, 65] [] _).mpr (.rejected (.inl rfl) rfl (.emptyLine hstrips))
  · have hstrips : Source.Strips [' ', '-', '\n'] [' ', '-'] :=
      @Source.Strips.lf [' ', '-'] (by decide)
    have htrims : Blank.Trims [' ', '-'] ['-'] := Blank.trim_eq_iff.mp (by decide +kernel)
    have hread := Decimal.readInt64_eq_error_iff.mp
      (show Decimal.readInt64 ['-'] = .error .invalidDigit from rfl)
    exact (hfails '~' [32, 45, 10, 53] [] _).mpr (.rejected (.inr rfl) rfl
      (.notInteger hstrips htrims hread.1 hread.2))
  · exact (hfails '~' [] [] _).mpr (.exhausted (.inr rfl) rfl)
  · exact (hfails ',' [] [0xDFFF] _).mpr (.unprintable rfl (by decide))
  · exact (step_fails_iff (m := { at_cell '?' [] [] with x := -1 }) rfl rfl
      (show _ = Source.ofBytes [] from rfl)).2.2 (.inl (.inl (by decide)))

end Machine

end Gridwalk
