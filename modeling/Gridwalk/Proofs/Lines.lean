import Gridwalk.Proofs.Effects

/-!
# Lines of input

A read takes the bytes of one line off the source and looks at nothing behind them. So a step
that reads is decided by its line, and every other step by no input at all.
-/
namespace Gridwalk

namespace Source

/-- The lines of a byte string. Each ends just after an LF, and only the last may lack it. -/
def lines : List UInt8 → List (List UInt8)
  | [] => []
  | b :: rest =>
    if b = lineFeed then [b] :: lines rest
    else
      match lines rest with
      | [] => [[b]]
      | line :: others => (b :: line) :: others

/-- The bytes of the line that comes next, the failure that cuts it short if there is one, and
the source that is left when they have been taken. -/
inductive Gives : Source → List UInt8 → Option String → Source → Prop where
  | whole {body} (rest) : lineFeed ∉ body →
      Gives (prepend (body ++ [lineFeed]) rest) (body ++ [lineFeed]) none rest
  | last {body} : lineFeed ∉ body → Gives (ofBytes body) body none eof
  | fault {body} (cause rest) : lineFeed ∉ body →
      Gives (prepend body (fault cause rest)) body (some cause) rest
  | broken {body} (cause) : lineFeed ∉ body →
      Gives (prepend body (broken cause)) body (some cause) (broken cause)

theorem ofBytes_append (a b : List UInt8) : ofBytes (a ++ b) = prepend a (ofBytes b) :=
  prepend_append a b eof

theorem Gives.byte {s rest : Source} {line : List UInt8} {failure : Option String} {b : UInt8}
    (h : s.Gives line failure rest) (hb : b ≠ lineFeed) :
    (byte b s).Gives (b :: line) failure rest := by
  cases h with
  | whole rest hbody => exact .whole rest (List.not_mem_cons_of_ne_of_not_mem hb.symm hbody)
  | last hbody => exact .last (List.not_mem_cons_of_ne_of_not_mem hb.symm hbody)
  | fault cause rest hbody =>
    exact .fault cause rest (List.not_mem_cons_of_ne_of_not_mem hb.symm hbody)
  | broken cause hbody => exact .broken cause (List.not_mem_cons_of_ne_of_not_mem hb.symm hbody)

theorem takeLine_gives (s : Source) : s.Gives s.takeLine.1 s.takeLine.2.1 s.takeLine.2.2 := by
  induction s with
  | eof => exact @Gives.last [] (by simp)
  | broken cause => exact @Gives.broken [] cause (by simp)
  | fault cause rest => exact @Gives.fault [] cause rest (by simp)
  | byte b rest ih =>
    by_cases hb : b = lineFeed
    · subst hb
      exact @Gives.whole [] rest (by simp)
    · simp only [takeLine, hb, ↓reduceIte]
      exact ih.byte hb

theorem takeLine_prepend {body : List UInt8} (h : lineFeed ∉ body) (s : Source) :
    (prepend body s).takeLine = (body ++ s.takeLine.1, s.takeLine.2) := by
  induction body with
  | nil => rfl
  | cons b body ih =>
    have hb : lineFeed ≠ b := List.ne_of_not_mem_cons h
    rw [prepend_cons, takeLine, if_neg hb.symm, ih (List.not_mem_of_not_mem_cons h)]
    rfl

/-- There is no other way to take the next line. -/
theorem Gives.takeLine {s rest : Source} {line : List UInt8} {failure : Option String}
    (h : s.Gives line failure rest) : s.takeLine = (line, failure, rest) := by
  cases h with
  | whole rest hbody =>
    rw [prepend_append, takeLine_prepend hbody]
    rfl
  | last hbody =>
    rw [ofBytes, takeLine_prepend hbody, Source.takeLine, List.append_nil]
  | fault cause rest hbody =>
    rw [takeLine_prepend hbody, Source.takeLine, List.append_nil]
  | broken cause hbody =>
    rw [takeLine_prepend hbody, Source.takeLine, List.append_nil]

/-- What a line amounts to once its bytes have been taken. -/
def verdict (line : List UInt8) : Option String → Except LineFault (List Char)
  | some cause => .error (.device cause)
  | none =>
    if line = [] then .error .exhausted
    else
      match Utf8.decode line with
      | none => .error .notUtf8
      | some text => .ok (dropTerminator text)

theorem Gives.readLine {s rest : Source} {line : List UInt8} {failure : Option String}
    (h : s.Gives line failure rest) : s.readLine = (verdict line failure, rest) := by
  unfold Source.readLine verdict
  rw [h.takeLine]
  cases failure with
  | some cause => rfl
  | none =>
    cases line with
    | nil => rfl
    | cons b line =>
      dsimp only
      cases Utf8.decode (b :: line) <;> rfl

theorem eq_some_of_device {line : List UInt8} {failure : Option String} {cause : String}
    (h : verdict line failure = .error (.device cause)) : failure = some cause := by
  unfold verdict at h
  cases failure with
  | some first =>
    rw [Except.error.injEq, LineFault.device.injEq] at h
    rw [h]
  | none =>
    by_cases hnil : line = []
    · simp [hnil] at h
    · simp only [hnil, ↓reduceIte] at h
      cases hd : Utf8.decode line <;> simp [hd] at h

theorem eq_nil_of_exhausted {line : List UInt8} {failure : Option String}
    (h : verdict line failure = .error .exhausted) : line = [] ∧ failure = none := by
  unfold verdict at h
  cases failure with
  | some cause => simp at h
  | none =>
    by_cases hnil : line = []
    · exact ⟨hnil, rfl⟩
    · simp only [hnil, ↓reduceIte] at h
      cases hd : Utf8.decode line <;> simp [hd] at h

/-- Only the end of the data gives no line at all. -/
theorem eq_eof_of_exhausted {s : Source} (h : s.readLine.1 = .error .exhausted) : s = eof := by
  have hgives := s.takeLine_gives
  rw [hgives.readLine] at h
  obtain ⟨hline, hfailure⟩ := eq_nil_of_exhausted h
  rw [hline, hfailure] at hgives
  generalize hrest : s.takeLine.2.2 = rest at hgives
  generalize hbytes : ([] : List UInt8) = bytes at hgives
  cases hgives with
  | whole rest hbody => simp at hbytes
  | last hbody =>
    rw [← hbytes]
    rfl

theorem lines_line {body : List UInt8} (h : lineFeed ∉ body) (rest : List UInt8) :
    lines (body ++ lineFeed :: rest) = (body ++ [lineFeed]) :: lines rest := by
  induction body with
  | nil => rfl
  | cons b body ih =>
    have hb : lineFeed ≠ b := List.ne_of_not_mem_cons h
    rw [List.cons_append, lines, if_neg hb.symm, ih (List.not_mem_of_not_mem_cons h)]
    rfl

theorem lines_open {body : List UInt8} (hne : body ≠ []) (h : lineFeed ∉ body) :
    lines body = [body] := by
  induction body with
  | nil => exact absurd rfl hne
  | cons b body ih =>
    have hb : lineFeed ≠ b := List.ne_of_not_mem_cons h
    rw [lines, if_neg hb.symm]
    by_cases hlast : body = []
    · subst hlast
      rfl
    · rw [ih hlast (List.not_mem_of_not_mem_cons h)]

/-- Data with an LF in it gives the line that ends there, whatever comes after the data. -/
theorem exists_whole_line {bytes : List UInt8} (h : lineFeed ∈ bytes) :
    ∃ line rest, line ≠ [] ∧ bytes = line ++ rest ∧ lines bytes = line :: lines rest ∧
      ∀ tail, (prepend bytes tail).Gives line none (prepend rest tail) := by
  obtain ⟨body, rest, rfl, hbody⟩ := List.eq_append_cons_of_mem h
  have hsplit : body ++ lineFeed :: rest = (body ++ [lineFeed]) ++ rest := by
    rw [List.append_assoc, List.singleton_append]
  refine ⟨body ++ [lineFeed], rest, by simp, hsplit, lines_line hbody rest, fun tail => ?_⟩
  rw [hsplit, prepend_append]
  exact .whole (prepend rest tail) hbody

/-- Data that is not at its end gives its first line and is left with the others. -/
theorem exists_first_line {bytes : List UInt8} (hne : bytes ≠ []) :
    ∃ line rest, line ≠ [] ∧ bytes = line ++ rest ∧ lines bytes = line :: lines rest ∧
      (ofBytes bytes).Gives line none (ofBytes rest) := by
  by_cases hmem : lineFeed ∈ bytes
  · obtain ⟨line, rest, hline, hbytes, hlines, hgives⟩ := exists_whole_line hmem
    exact ⟨line, rest, hline, hbytes, hlines, hgives eof⟩
  · exact ⟨bytes, [], hne, by simp, lines_open hne hmem, .last hmem⟩

/-- Bytes that are nothing but whole lines. -/
def Closed (bytes : List UInt8) : Prop := bytes = [] ∨ bytes.getLast? = some lineFeed

theorem Closed.exists_line {bytes : List UInt8} (h : Closed bytes) (hne : bytes ≠ []) :
    ∃ line rest, bytes = line ++ rest ∧ Closed rest ∧ lines bytes = line :: lines rest ∧
      ∀ tail, (prepend bytes tail).Gives line none (prepend rest tail) := by
  have hlast : bytes.getLast? = some lineFeed := h.resolve_left hne
  obtain ⟨line, rest, -, rfl, hlines, hgives⟩ :=
    exists_whole_line (List.mem_of_getLast? hlast)
  refine ⟨line, rest, rfl, ?_, hlines, hgives⟩
  by_cases hrest : rest = []
  · exact .inl hrest
  · rw [List.getLast?_append, List.getLast?_eq_some_getLast hrest, Option.some_or] at hlast
    rw [Closed, List.getLast?_eq_some_getLast hrest]
    exact .inr hlast

/-- A line taken in full is the whole of a source that holds nothing else. -/
theorem Gives.alone {s rest : Source} {line : List UInt8} (h : s.Gives line none rest) :
    (ofBytes line).Gives line none eof := by
  cases h with
  | whole rest hbody => exact .whole eof hbody
  | last hbody => exact .last hbody

end Source

namespace Machine

/-- The same machine with something else to read. -/
def fed (s : Source) (m : Machine) : Machine := { m with input := s }

/-- The next step asks for a line, whether or not it comes to read one. -/
def Asks (m : Machine) : Prop := m.halted = false ∧ (m.cell = '?' ∨ m.cell = '~')

instance : DecidablePred Asks := fun m =>
  inferInstanceAs (Decidable (m.halted = false ∧ (m.cell = '?' ∨ m.cell = '~')))

/-- The next step turns to the input: it asks for a line and the flush before that succeeds. -/
def Consults (m : Machine) : Prop := m.Asks ∧ m.output.flush.1 = none

instance : DecidablePred Consults := fun m =>
  inferInstanceAs (Decidable (m.Asks ∧ m.output.flush.1 = none))

variable {m : Machine} {s t : Source}

theorem fed_eq_self (h : m.fed s = m) : m.input = s := (congrArg Machine.input h).symm

theorem emit_fed (render : Int64 → Except Fault (List UInt8)) (m : Machine) (s : Source) :
    (m.fed s).emit render = ((m.emit render).1, (m.emit render).2.fed s) := by
  have hstack : (m.fed s).stack = m.stack := rfl
  rw [emit, emit, hstack]
  cases render m.stack.top with
  | error f => rfl
  | ok piece =>
    simp only [publish_eq]
    rfl

theorem intake_fed_of_unflushed {cause : String} (h : m.output.flush.1 = some cause)
    (accept : List Char → Except Fault Int64) (s : Source) :
    (m.fed s).intake accept = ((m.intake accept).1, (m.intake accept).2.fed s) := by
  have hfed : (m.fed s).output.flush.1 = some cause := h
  rw [intake, intake, readLine_of_flush_failed h, readLine_of_flush_failed hfed]
  rfl

/-- What is made of a line does not depend on where the line came from. -/
theorem intake_fed_of_flushed (h : m.output.flush.1 = none)
    (hs : s.readLine.1 = m.input.readLine.1) (accept : List Char → Except Fault Int64) :
    (m.fed s).intake accept =
      ((m.intake accept).1, (m.intake accept).2.fed s.readLine.2) := by
  have hfed : (m.fed s).output.flush.1 = none := h
  have hinput : (m.fed s).input.readLine = (m.input.readLine.1, s.readLine.2) := by
    rw [← hs]
    rfl
  rw [intake, intake, readLine_of_flushed h, readLine_of_flushed hfed, hinput]
  cases m.input.readLine.1 with
  | error fault => rfl
  | ok line =>
    dsimp only [Except.mapError]
    cases accept line <;> rfl

theorem step_fed_of_execute (hm : m.halted = false) (hi : Instruction.decode m.cell ≠ .halt)
    (he : (m.count.fed s).execute (Instruction.decode m.cell) =
      ((m.count.execute (Instruction.decode m.cell)).1,
        (m.count.execute (Instruction.decode m.cell)).2.fed t)) :
    (m.fed s).step = (m.step.1, m.step.2.fed t) := by
  have hm' : (m.fed s).halted = false := hm
  have hi' : Instruction.decode (m.fed s).cell ≠ .halt := hi
  have hcell : (m.fed s).cell = m.cell := rfl
  rcases hr : m.count.execute (Instruction.decode m.cell) with ⟨answer, e⟩
  rw [hr] at he
  cases answer with
  | error f => rw [step_of_fault hm hi hr, step_of_fault hm' hi' he]
  | ok u =>
    rw [step_of_done hm hi hr, step_of_done hm' hi' he]
    rfl

/-- Without a line to ask for, a step does not see the input and leaves it alone. -/
theorem step_fed_of_silent (h : ¬ m.Asks) (s : Source) :
    (m.fed s).step = (m.step.1, m.step.2.fed s) := by
  by_cases hm : m.halted = true
  · have hm' : (m.fed s).halted = true := hm
    rw [step_of_halted hm, step_of_halted hm']
  · have hawake : m.halted = false := Bool.eq_false_iff.mpr hm
    have hawake' : (m.fed s).halted = false := hawake
    by_cases hi : Instruction.decode m.cell = .halt
    · have hi' : Instruction.decode (m.fed s).cell = .halt := hi
      rw [step_of_halt hawake hi, step_of_halt hawake' hi']
      rfl
    · apply step_fed_of_execute hawake hi
      obtain hq | ⟨accept, hread, -⟩ | ⟨render, hrender⟩ :=
        execute_cases (Instruction.decode m.cell)
      · rw [execute_quiet _ hq, execute_quiet _ hq]
        rfl
      · exact absurd ⟨hawake, (Instruction.decode_reads_iff m.cell).mp hread⟩ h
      · rw [hrender, hrender]
        exact emit_fed render m.count s

section Asking

variable (h : m.Asks)

include h

theorem Asks.execute : ∃ accept, Instruction.decode m.cell ≠ .halt ∧
    ∀ a : Machine, a.execute (Instruction.decode m.cell) = a.intake accept := by
  rcases (Instruction.decode_reads_iff m.cell).mpr h.2 with hi | hi
  · refine ⟨charWord, by simp [hi], fun a => ?_⟩
    rw [hi, execute_readChar]
  · refine ⟨intWord, by simp [hi], fun a => ?_⟩
    rw [hi, execute_readInt]

/-- When the flush before the read fails, the input is not looked at. -/
theorem step_fed_of_unflushed {cause : String} (hf : m.output.flush.1 = some cause)
    (s : Source) : (m.fed s).step = (m.step.1, m.step.2.fed s) := by
  obtain ⟨accept, hi, hread⟩ := h.execute
  apply step_fed_of_execute h.1 hi
  rw [hread, hread]
  exact intake_fed_of_unflushed (m := m.count) hf accept s

/-- A step that reads does the same on every source that gives the same line. -/
theorem step_fed_of_flushed (hf : m.output.flush.1 = none)
    (hs : s.readLine.1 = m.input.readLine.1) :
    (m.fed s).step = (m.step.1, m.step.2.fed s.readLine.2) := by
  obtain ⟨accept, hi, hread⟩ := h.execute
  apply step_fed_of_execute h.1 hi
  rw [hread, hread]
  exact intake_fed_of_flushed (m := m.count) hf hs accept

/-- At the end of the data there is no line, whatever it is asked for. -/
theorem step_of_eof (hf : m.output.flush.1 = none) (heof : m.input = .eof) :
    m.step.1 = .error (.inputExhausted m.cell) := by
  obtain ⟨accept, hi, hread⟩ := h.execute
  have hf' : m.count.output.flush.1 = none := hf
  have hinput : m.count.input = .eof := heof
  have hexecute : m.count.execute (Instruction.decode m.cell) =
      (.error (.inputExhausted m.count.cell),
        { m.count with output := m.count.output.flush.2, input := .eof }) := by
    rw [hread, intake, readLine_of_flushed hf', hinput]
    rfl
  rw [step_of_fault h.1 hi hexecute]
  rfl

end Asking

/-- All that a step may take from the input is taken by a step that turns to it. -/
theorem step_fed_of_not_consults (h : ¬ m.Consults) (s : Source) :
    (m.fed s).step = (m.step.1, m.step.2.fed s) := by
  by_cases hasks : m.Asks
  · cases hf : m.output.flush.1 with
    | some cause => exact step_fed_of_unflushed hasks hf s
    | none => exact absurd ⟨hasks, hf⟩ h
  · exact step_fed_of_silent hasks s

/-- Nothing but the end of the data makes a step complain of it. -/
theorem eof_of_exhausted {c : Char} (h : m.step.1 = .error (.inputExhausted c)) :
    m.input = .eof := by
  have ht := step_trouble h
  generalize hf : Fault.inputExhausted c = f at ht
  cases ht with
  | line hcell hfault =>
    rename_i fault
    cases fault <;> cases hf
    exact Source.eq_eof_of_exhausted hfault
  | output => cases hf
  | emptyLine => cases hf
  | notInteger => cases hf
  | noCharacter => cases hf

theorem input_of_step_fed (h : (m.fed m.input).step = (m.step.1, m.step.2.fed t)) :
    m.step.2.input = t :=
  fed_eq_self (congrArg Prod.snd h).symm

variable (m) in
theorem step_input :
    m.step.2.input = m.input ∨ m.step.2.input = m.input.readLine.2 := by
  by_cases hconsults : m.Consults
  · exact .inr (input_of_step_fed (step_fed_of_flushed hconsults.1 hconsults.2 rfl))
  · exact .inl (input_of_step_fed (step_fed_of_not_consults hconsults m.input))

end Machine

end Gridwalk
