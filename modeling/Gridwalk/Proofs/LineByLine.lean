import Mathlib.Data.List.Forall2
import Gridwalk.Proofs.History
import Gridwalk.Proofs.Lines

/-!
# Input is taken line by line

However a session is driven and whatever fails in it, what it has consumed is a number of
whole lines, one for each read, and the rest of the input is still there. A line that is
rejected is spent like any other.
-/
namespace Gridwalk.Machine

/-- An answer that complains of the end of the input. -/
def ranDry : Except Fault Status → Bool
  | .error (.inputExhausted _) => true
  | _ => false

/-- The next step reads a line: it gets past its flush and does not find the input at its end. -/
def Reads (m : Machine) : Prop :=
  m.Asks ∧ m.output.flush.1 = none ∧ ranDry m.step.1 = false

instance : DecidablePred Reads := fun m =>
  inferInstanceAs (Decidable (m.Asks ∧ m.output.flush.1 = none ∧ ranDry m.step.1 = false))

/-- The line that a step reads: its bytes are taken, and the step does what it would do if they
were all there is. -/
structure Given (m : Machine) (line : List UInt8) : Prop where
  taken : m.input = Source.prepend line m.step.2.input
  alone : (m.fed (.ofBytes line)).step = (m.step.1, m.step.2.fed .eof)

variable {m : Machine}

theorem ranDry_iff {answer : Except Fault Status} :
    ranDry answer = true ↔ ∃ c, answer = .error (.inputExhausted c) := by
  constructor
  · intro h
    unfold ranDry at h
    split at h
    · exact ⟨_, rfl⟩
    · exact absurd h (by simp)
  · rintro ⟨c, rfl⟩
    rfl

/-- A step that asks at the end of the data runs dry. -/
theorem ranDry_of_eof (h : m.Asks) (hf : m.output.flush.1 = none) (heof : m.input = .eof) :
    ranDry m.step.1 = true := by
  rw [step_of_eof h hf heof]
  rfl

/-- A step that does not read leaves the input as it is. -/
theorem input_of_not_reads (h : ¬ m.Reads) : m.step.2.input = m.input := by
  by_cases hconsults : m.Consults
  · obtain ⟨hasks, hf⟩ := hconsults
    have hdry : ranDry m.step.1 = true := by
      by_cases hdry : ranDry m.step.1 = true
      · exact hdry
      · exact absurd ⟨hasks, hf, Bool.eq_false_iff.mpr hdry⟩ h
    obtain ⟨c, hc⟩ := ranDry_iff.mp hdry
    have heof := eof_of_exhausted hc
    rw [input_of_step_fed (step_fed_of_flushed hasks hf rfl), heof]
    rfl
  · exact input_of_step_fed (step_fed_of_not_consults hconsults m.input)

theorem Reads.given {bytes : List UInt8} (h : m.Reads) (hinput : m.input = .ofBytes bytes) :
    ∃ line rest, bytes = line ++ rest ∧ Source.lines bytes = line :: Source.lines rest ∧
      m.step.2.input = .ofBytes rest ∧ m.Given line := by
  obtain ⟨hasks, hf, hdry⟩ := h
  have hne : bytes ≠ [] := by
    rintro rfl
    exact absurd (hdry.symm.trans (ranDry_of_eof hasks hf hinput)) (by simp)
  obtain ⟨line, rest, -, hbytes, hlines, hgives⟩ := Source.exists_first_line hne
  rw [← hinput] at hgives
  have hrest : m.step.2.input = .ofBytes rest := by
    rw [input_of_step_fed (step_fed_of_flushed hasks hf rfl), hgives.readLine]
  refine ⟨line, rest, hbytes, hlines, hrest, ?_, ?_⟩
  · rw [hrest, hinput, hbytes]
    exact Source.ofBytes_append line rest
  · have halone := hgives.alone.readLine
    have hsame : (Source.ofBytes line).readLine.1 = m.input.readLine.1 := by
      rw [halone, hgives.readLine]
    rw [step_fed_of_flushed hasks hf hsame, halone]

/-- The input so far: whole lines were given to the reads of the past, and the others are
still to come. -/
def Spent (bytes : List UInt8) (past : List Machine) (m : Machine) : Prop :=
  ∃ given rest, bytes = given.flatten ++ rest ∧
    Source.lines bytes = given ++ Source.lines rest ∧ m.input = .ofBytes rest ∧
    List.Forall₂ Given (past.filter (Reads ·)) given

theorem Spent.step {bytes : List UInt8} {past : List Machine} (h : Spent bytes past m) :
    Spent bytes (past ++ [m]) m.step.2 := by
  obtain ⟨given, rest, hbytes, hlines, hinput, hgiven⟩ := h
  by_cases hreads : m.Reads
  · obtain ⟨line, rest', rfl, hnext, hinput', hline⟩ := hreads.given hinput
    refine ⟨given ++ [line], rest', ?_, ?_, hinput', ?_⟩
    · rw [hbytes, List.flatten_append, List.flatten_singleton, List.append_assoc]
    · rw [hlines, hnext, List.append_assoc, List.singleton_append]
    · rw [List.filter_append, List.filter_singleton]
      simp only [hreads, decide_true, cond_true]
      exact List.rel_append hgiven (.cons hline .nil)
  · refine ⟨given, rest, hbytes, hlines, (input_of_not_reads hreads).trans hinput, ?_⟩
    rw [List.filter_append, List.filter_singleton]
    simp only [hreads, decide_false, cond_false, List.append_nil]
    exact hgiven

/-- The history has all counted steps, so its reads are all reads of the session. -/
theorem input_taken_line_by_line {g : Grid} {bytes : List UInt8} {d : Device} {fuel : Nat}
    {calls : List Call} {replies : List Reply} {m : Machine}
    (h : (start g (.ofBytes bytes) d).performAll fuel calls = some (replies, m)) :
    let past := (start g (.ofBytes bytes) d).history fuel calls
    let reads := past.filter (Reads ·)
    past.map steps = List.range m.steps ∧
    ∃ rest, m.input = .ofBytes rest ∧
      bytes = ((Source.lines bytes).take reads.length).flatten ++ rest ∧
      List.Forall₂ Given reads ((Source.lines bytes).take reads.length) := by
  intro past reads
  obtain ⟨hpast, hcount⟩ := history_steps h
  have hspent : Spent bytes past m := by
    refine performAll_history ?_ ?_ ?_ h [] ⟨[], bytes, rfl, rfl, rfl, .nil⟩
    · exact fun past u _ hu => hu.step
    · rintro past u ⟨given, rest, hbytes, hlines, hinput, hgiven⟩
      refine ⟨given, rest, hbytes, hlines, ?_, hgiven⟩
      rw [flush_eq]
      exact hinput
    · exact fun past config u hu => hu
  obtain ⟨given, rest, hbytes, hlines, hinput, hgiven⟩ := hspent
  have htake : (Source.lines bytes).take reads.length = given := by
    rw [hgiven.length_eq, hlines, List.take_left]
  refine ⟨?_, rest, hinput, ?_, ?_⟩
  · rw [hpast, hcount, List.range_eq_range']
    exact congrArg (List.range' 0) (Nat.zero_add _).symm
  · rw [htake]
    exact hbytes
  · rw [htake]
    exact hgiven

/-- The first attempt fails before it reads. Two lines are rejected, the third one lacks its
end, and the last attempt finds nothing. -/
theorem input_taken_line_by_line_when_rejected :
    let m₀ := start (Grid.parse "~?".toList) (.ofBytes [120, 10, 10, 55])
      ⟨fun _ _ => none, fun call _ => if call = 0 then some "busy" else none⟩
    let calls := [.step, .step, .configure ⟨some 4, true⟩, .run, .run, .step]
    ∃ replies m, m₀.performAll 0 calls = some (replies, m) ∧ m.steps = 5 ∧
      m.input = .ofBytes [] ∧
      List.Forall₂ Given ((m₀.history 0 calls).filter (Reads ·)) [[120, 10], [10], [55]] := by
  intro m₀ calls
  have hrun : (m₀.performAll 0 calls).map (fun p => p.2.steps) = some 5 := by decide +kernel
  obtain ⟨⟨replies, m⟩, hcalls, hsteps⟩ := Option.map_eq_some_iff.mp hrun
  obtain ⟨-, rest, hinput, hbytes, hgiven⟩ := input_taken_line_by_line hcalls
  have hcount : ((m₀.history 0 calls).filter (Reads ·)).length = 3 := by decide +kernel
  rw [hcount] at hbytes hgiven
  have hrest : rest = [] := List.append_cancel_left (hbytes.symm.trans (List.append_nil _).symm)
  exact ⟨replies, m, hcalls, hsteps, hrest ▸ hinput, hgiven⟩

end Gridwalk.Machine
