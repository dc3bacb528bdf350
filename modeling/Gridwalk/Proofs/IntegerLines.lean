import Mathlib
import Gridwalk.Proofs.Literals
import Gridwalk.Proofs.Pipes

/-!
# Lines that are read as integers

An integer may stand anywhere between the white space of its line, and nothing else may. A line
without one is handed back untrimmed in the fault, with what is wrong with the trimmed text.
-/
namespace Gridwalk.Machine

theorem intWord_eq_ok_iff {line word : List Char} (h : Blank.Trims line word) {v : Int64} :
    intWord line = .ok v ↔ Decimal.Denotes word v.toInt := by
  rw [intWord, h.trim, ← Decimal.readInt64_eq_ok_iff]
  cases Decimal.readInt64 word <;> simp [Except.mapError]

theorem intWord_eq_error_iff {line word : List Char} (h : Blank.Trims line word) {f : Fault} :
    intWord line = .error f ↔ ∃ cause, f = .malformedInteger line cause ∧
      (∀ n, Decimal.Denotes word n → ¬ Decimal.InRange n) ∧ Decimal.Explains word cause := by
  simp only [← Decimal.readInt64_eq_error_iff]
  rw [intWord, h.trim]
  cases Decimal.readInt64 word <;> simp [Except.mapError, eq_comm]

variable {m : Machine}

/-- The value pushed is that of the whole text, and no digit string is too long to be told from
one in range. -/
theorem integer_line_read_exactly (h : m.Executes '~') (hf : m.output.flush.1 = none)
    {text : List Char} (hne : text ≠ []) {rest : Source}
    (hline : m.input.Gives (Utf8.encode text) none rest) :
    m.step.2.input = rest ∧
    ∃ line word, Source.Strips text line ∧ Blank.Trims line word ∧
      ((∃ status, m.step.1 = .ok status) ↔
        ∃ n, Decimal.Denotes word n ∧ Decimal.InRange n) ∧
      (∀ n, Decimal.Denotes word n → Decimal.InRange n →
        m.step.1 = .ok .running ∧ ∃ v : Int64, v.toInt = n ∧ m.step.2.stack = m.stack.push v) ∧
      ((∀ n, Decimal.Denotes word n → ¬ Decimal.InRange n) →
        ∃ cause, m.step.1 = .error (.malformedInteger line cause) ∧
          Decimal.Explains word cause) := by
  have hasks := asks_of_executes (.inl h)
  have hstrips := Source.strips_dropTerminator text
  have hreadLine := Source.readLine_text hne hline hstrips
  obtain ⟨hreading, -⟩ := reading_of_line hreadLine
  rw [accepts_of_integer h] at hreading
  generalize Source.dropTerminator text = line at hstrips hreadLine hreading
  have htrims := Blank.trims_trim line
  generalize Blank.trim line = word at htrims
  have haccepted : ∀ n, Decimal.Denotes word n → Decimal.InRange n →
      m.step.1 = .ok .running ∧
        ∃ v : Int64, v.toInt = n ∧ m.step.2.stack = m.stack.push v := by
    intro n hn hrange
    have hvalue := Decimal.toInt_ofInt hrange
    have hword : intWord line = .ok (Int64.ofInt n) := by
      rwa [intWord_eq_ok_iff htrims, hvalue]
    rw [step_of_accepted hasks hf (hreading.trans hword)]
    exact ⟨rfl, Int64.ofInt n, hvalue, rfl⟩
  refine ⟨?_, line, word, hstrips, htrims, ?_, haccepted, ?_⟩
  · rw [input_of_step_fed (step_fed_of_flushed hasks hf rfl), hreadLine]
  · constructor
    · rintro ⟨status, hstatus⟩
      cases hword : intWord line with
      | error f =>
        rw [step_of_rejected hasks hf (hreading.trans hword)] at hstatus
        cases hstatus
      | ok v => exact ⟨v.toInt, (intWord_eq_ok_iff htrims).mp hword, Decimal.inRange_toInt v⟩
    · rintro ⟨n, hn, hrange⟩
      exact ⟨.running, (haccepted n hn hrange).1⟩
  · intro hnone
    cases hword : intWord line with
    | error f =>
      obtain ⟨cause, rfl, -, hcause⟩ := (intWord_eq_error_iff htrims).mp hword
      rw [step_of_rejected hasks hf (hreading.trans hword)]
      exact ⟨cause, rfl, hcause⟩
    | ok v =>
      have hn := (intWord_eq_ok_iff htrims).mp hword
      exact absurd (Decimal.inRange_toInt v) (hnone v.toInt hn)

/-- The lower end of the range with zeros in front of it, between a no-break space and a CR, and
a value that is past the upper end before the character comes that is no digit. -/
theorem integer_line_read_exactly_at_range_ends :
    let low := ['\u00a0', '-', '0', '9', '2', '2', '3', '3', '7', '2', '0', '3', '6', '8', '5',
      '4', '7', '7', '5', '8', '0', '8']
    let high := ['9', '2', '2', '3', '3', '7', '2', '0', '3', '6', '8', '5', '4', '7', '7', '5',
      '8', '0', '8', 'x']
    let a := start (Grid.parse "~".toList)
      (.prepend (Utf8.encode (low ++ ['\r'] ++ ['\n'])) .eof) .working
    let b := start (Grid.parse "~".toList) (.ofBytes (Utf8.encode high)) .working
    (∃ v : Int64, v.toInt = -2 ^ 63 ∧ a.step.2.stack = ⟨[v]⟩) ∧
      b.step.1 = .error (.malformedInteger high .tooLarge) := by
  intro low high a b
  constructor
  · obtain ⟨-, line, word, hstrips, htrims, -, haccepted, -⟩ :=
      integer_line_read_exactly (m := a) (by decide) rfl (by decide)
        (@Source.gives_line (low ++ ['\r']) (by decide) .eof)
    have hword : word = low.tail := by
      rw [← htrims.trim, ← hstrips.dropTerminator]
      decide +kernel
    have hdenotes : Decimal.Denotes word (-2 ^ 63) := by
      rw [hword]
      exact ⟨.minus, low.tail.tail, rfl, by decide, by decide +kernel, by decide +kernel⟩
    exact (haccepted _ hdenotes (by decide)).2
  · obtain ⟨-, line, word, hstrips, htrims, -, -, hrejected⟩ :=
      integer_line_read_exactly (m := b) (by decide) rfl (by decide)
        (@Source.gives_last high (by decide))
    have hline : line = high := by
      rw [← hstrips.dropTerminator]
      decide +kernel
    have hword : word = high := by
      rw [← htrims.trim, hline]
      decide +kernel
    have hnone : ∀ n, Decimal.Denotes word n → ¬ Decimal.InRange n := by
      intro n hn
      obtain ⟨-, hdigits, -⟩ := Decimal.denotes_iff.mp hn
      rw [hword] at hdigits
      exact absurd (hdigits 'x' (by decide)) (by decide)
    obtain ⟨cause, hfault, hcause⟩ := hrejected hnone
    have hpast : Decimal.Overflows word .tooLarge := by
      rw [hword]
      exact ⟨.bare, high.dropLast, ['x'], rfl, by decide +kernel, by decide +kernel, rfl⟩
    rw [hfault, hline, hcause.tooLarge.mpr hpast]

end Gridwalk.Machine
