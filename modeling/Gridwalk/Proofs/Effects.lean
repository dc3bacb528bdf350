import Gridwalk.Machine

/-!
# What a step can do

Input and output are reached in two ways only: an instruction takes in a line and pushes a
word, or it pops a word and emits text. All other instructions turn the pointer or rearrange
the stack and cannot fail. Nothing an instruction does depends on where the pointer stands.
-/
namespace Gridwalk

/-- The answer of an output operation, given the cause of its failure if it failed. -/
def Fault.ofOutput : Option String → Except Fault Unit
  | some cause => .error (.output cause)
  | none => .ok ()

def Fault.ofLine (cell : Char) : LineFault → Fault
  | .exhausted => .inputExhausted cell
  | .notUtf8 => .input Utf8.invalid
  | .device cause => .input cause

theorem Sink.flush_bytes (s : Sink) : s.flush.2.bytes = s.bytes := by
  unfold Sink.flush
  dsimp only
  split <;> rfl

namespace Instruction

def isQuiet : Instruction → Bool
  | readChar | readInt | writeInt | writeChar => false
  | _ => true

/-- What a quiet instruction makes of direction and stack. Both branches read an empty stack
as zeros, but the horizontal one replaces only a stack that is there. -/
def act : Instruction → Direction → Stack → Direction × Stack
  | turn direction, _, s => (direction, s)
  | pushZero, d, s => (d, s.push 0)
  | increment, d, s => (d, s.addToTop 1)
  | decrement, d, s => (d, s.addToTop (-1))
  | duplicate, d, s => (d, s.duplicate)
  | swap, d, s => (d, s.swap)
  | discard, d, s => (d, s.drop)
  | branchVertical, _, s => (if s.top = 0 then .down else .up, s)
  | branchHorizontal, _, s =>
    (if s.drop.top = 0 then .left else .right,
      if s.isEmpty then s else s.drop.drop.push s.drop.top)
  | _, d, s => (d, s)

/-- Each of these instructions has a character to itself. -/
theorem decode_eq_iff {c : Char} {i : Instruction}
    (h : (c, i) ∈ [('?', readChar), ('~', readInt), ('.', writeInt), (',', writeChar), ('@', halt)])
    (d : Char) : decode d = i ↔ d = c := by
  simp only [List.mem_cons, Prod.mk.injEq, List.not_mem_nil, or_false] at h
  rcases h with ⟨rfl, rfl⟩ | ⟨rfl, rfl⟩ | ⟨rfl, rfl⟩ | ⟨rfl, rfl⟩ | ⟨rfl, rfl⟩
  all_goals
    constructor
    · unfold decode
      split <;> simp
    · rintro rfl
      rfl

theorem decode_reads_iff (c : Char) :
    (decode c = readChar ∨ decode c = readInt) ↔ (c = '?' ∨ c = '~') :=
  or_congr (decode_eq_iff (by simp) c) (decode_eq_iff (by simp) c)

theorem decode_writes_iff (c : Char) :
    (decode c = writeInt ∨ decode c = writeChar) ↔ (c = '.' ∨ c = ',') :=
  or_congr (decode_eq_iff (by simp) c) (decode_eq_iff (by simp) c)

/-- Where one cell reads, another that does the same holds the same character. -/
theorem cell_of_decode_read {a b : Char} (ha : decode a = readChar ∨ decode a = readInt)
    (h : decode a = decode b) : a = b := by
  have hchar : ∀ c, decode c = readChar ↔ c = '?' := decode_eq_iff (by simp)
  have hint : ∀ c, decode c = readInt ↔ c = '~' := decode_eq_iff (by simp)
  rcases ha with ha | ha
  · rw [(hchar a).mp ha, (hchar b).mp (h ▸ ha)]
  · rw [(hint a).mp ha, (hint b).mp (h ▸ ha)]

end Instruction

namespace Machine

def intake (accept : List Char → Except Fault Int64) (m : Machine) :
    Except Fault Unit × Machine :=
  match m.readLine with
  | (.error f, m) => (.error f, m)
  | (.ok line, m) =>
    match accept line with
    | .error f => (.error f, m)
    | .ok v => (.ok (), { m with stack := m.stack.push v })

def emit (render : Int64 → Except Fault (List UInt8)) (m : Machine) :
    Except Fault Unit × Machine :=
  match render m.stack.top with
  | .error f => (.error f, { m with stack := m.stack.drop })
  | .ok piece => publish piece { m with stack := m.stack.drop }

def charWord : List Char → Except Fault Int64
  | [] => .error .emptyCharInput
  | c :: _ => .ok (CodePoint.ofChar c)

def intWord (line : List Char) : Except Fault Int64 :=
  (Decimal.readInt64 (Blank.trim line)).mapError (Fault.malformedInteger line)

def intText (v : Int64) : Except Fault (List UInt8) :=
  .ok (Utf8.encode (Decimal.writeInt v.toInt ++ ['\n']))

def charText (v : Int64) : Except Fault (List UInt8) :=
  match CodePoint.toChar? v with
  | none => .error (.invalidCodePoint v)
  | some c => .ok (Utf8.encode [c])

theorem charWord_error {line : List Char} {f : Fault} (h : charWord line = .error f) :
    f = .emptyCharInput := by
  cases line with
  | nil =>
    cases h
    rfl
  | cons c line => cases h

theorem intWord_error {line : List Char} {f : Fault} (h : intWord line = .error f) :
    ∃ cause, f = .malformedInteger line cause := by
  unfold intWord at h
  cases hr : Decimal.readInt64 (Blank.trim line) with
  | error cause =>
    rw [hr] at h
    cases h
    exact ⟨cause, rfl⟩
  | ok v =>
    rw [hr] at h
    cases h

theorem charText_error {v : Int64} {f : Fault} (h : charText v = .error f) :
    f = .invalidCodePoint v := by
  unfold charText at h
  cases hc : CodePoint.toChar? v with
  | none =>
    rw [hc] at h
    cases h
    rfl
  | some c =>
    rw [hc] at h
    cases h

variable (m : Machine)

theorem flush_eq :
    m.flush = (Fault.ofOutput m.output.flush.1, { m with output := m.output.flush.2 }) := by
  unfold flush
  rcases m.output.flush with ⟨_ | cause, output⟩ <;> rfl

theorem publish_eq (piece : List UInt8) :
    m.publish piece = (Fault.ofOutput (m.output.publish piece).1,
      { m with output := (m.output.publish piece).2 }) := by
  unfold publish
  rcases m.output.publish piece with ⟨_ | cause, output⟩ <;> rfl

theorem readLine_of_flush_failed {m : Machine} {cause : String}
    (h : m.output.flush.1 = some cause) :
    m.readLine = (.error (.output cause), { m with output := m.output.flush.2 }) := by
  simp [readLine, flush_eq, h, Fault.ofOutput]

theorem readLine_of_flushed {m : Machine} (h : m.output.flush.1 = none) :
    m.readLine = (m.input.readLine.1.mapError (Fault.ofLine m.cell),
      { m with output := m.output.flush.2, input := m.input.readLine.2 }) := by
  simp only [readLine, flush_eq, h, Fault.ofOutput]
  rcases m.input.readLine with ⟨(_ | _ | cause) | line, input⟩ <;> rfl

theorem execute_readChar : m.execute .readChar = m.intake charWord := by
  unfold execute intake
  rcases m.readLine with ⟨f | (_ | ⟨c, line⟩), m⟩ <;> rfl

theorem execute_readInt : m.execute .readInt = m.intake intWord := by
  simp only [execute, intake, intWord]
  rcases m.readLine with ⟨f | line, m⟩
  · rfl
  · cases h : Decimal.readInt64 (Blank.trim line) <;> simp only [h] <;> rfl

theorem execute_writeInt : m.execute .writeInt = m.emit intText := rfl

theorem execute_writeChar : m.execute .writeChar = m.emit charText := by
  simp only [execute, emit, charText, Stack.pop]
  cases h : CodePoint.toChar? m.stack.top <;> simp

theorem execute_quiet {i : Instruction} (h : i.isQuiet = true) :
    m.execute i = (.ok (), { m with
      direction := (i.act m.direction m.stack).1
      stack := (i.act m.direction m.stack).2 }) := by
  cases i with
  | readChar | readInt | writeInt | writeChar => simp [Instruction.isQuiet] at h
  | branchVertical =>
    rcases hs : m.stack with ⟨values⟩
    cases values <;> simp [execute, Instruction.act, hs, Stack.isEmpty, Stack.top]
  | branchHorizontal =>
    rcases hs : m.stack with ⟨values⟩
    cases values <;>
      simp [execute, Instruction.act, hs, Stack.isEmpty, Stack.top, Stack.drop, Stack.pop]
  | _ => rfl

theorem execute_cases (i : Instruction) :
    i.isQuiet = true ∨
    (∃ accept, (i = .readChar ∨ i = .readInt) ∧ ∀ m : Machine, m.execute i = m.intake accept) ∨
    (∃ render, ∀ m : Machine, m.execute i = m.emit render) := by
  cases i with
  | readChar => exact .inr (.inl ⟨_, .inl rfl, execute_readChar⟩)
  | readInt => exact .inr (.inl ⟨_, .inr rfl, execute_readInt⟩)
  | writeInt => exact .inr (.inr ⟨_, execute_writeInt⟩)
  | writeChar => exact .inr (.inr ⟨_, execute_writeChar⟩)
  | _ => exact .inl rfl

/-- The part of a machine that is not the business of any instruction. -/
structure SameSetting (a b : Machine) : Prop where
  grid : b.grid = a.grid
  x : b.x = a.x
  y : b.y = a.y
  steps : b.steps = a.steps
  halted : b.halted = a.halted
  config : b.config = a.config
  journal : b.journal = a.journal

structure SameHeading (a b : Machine) : Prop extends SameSetting a b where
  direction : b.direction = a.direction

theorem SameHeading.refl : SameHeading m m :=
  ⟨⟨rfl, rfl, rfl, rfl, rfl, rfl, rfl⟩, rfl⟩

variable {m} in
theorem SameHeading.with_data {e : Machine} (h : SameHeading m e) (stack : Stack)
    (input : Source) (output : Sink) : SameHeading m { e with stack, input, output } :=
  ⟨⟨h.grid, h.x, h.y, h.steps, h.halted, h.config, h.journal⟩, h.direction⟩

theorem flush_heading : SameHeading m m.flush.2 := by
  rw [flush_eq]
  exact (SameHeading.refl m).with_data _ _ _

theorem readLine_heading : SameHeading m m.readLine.2 := by
  have h := SameHeading.refl m
  cases hf : m.output.flush.1 with
  | some cause =>
    rw [readLine_of_flush_failed hf]
    exact h.with_data _ _ _
  | none =>
    rw [readLine_of_flushed hf]
    exact h.with_data _ _ _

theorem intake_heading (accept : List Char → Except Fault Int64) :
    SameHeading m (m.intake accept).2 := by
  have h := m.readLine_heading
  unfold intake
  cases hr : m.readLine with
  | mk answer e =>
    rw [hr] at h
    cases answer with
    | error f => exact h
    | ok line =>
      dsimp only
      cases accept line with
      | error f => exact h
      | ok v => exact h.with_data _ _ _

theorem emit_heading (render : Int64 → Except Fault (List UInt8)) :
    SameHeading m (m.emit render).2 := by
  have h := SameHeading.refl m
  unfold emit
  cases render m.stack.top with
  | error f => exact h.with_data _ _ _
  | ok piece =>
    simp only [publish_eq]
    exact h.with_data _ _ _

theorem readLine_output : m.readLine.2.output = m.output.flush.2 := by
  cases hf : m.output.flush.1 with
  | some cause => rw [readLine_of_flush_failed hf]
  | none => rw [readLine_of_flushed hf]

/-- Accepting or rejecting a line does not touch the output any more. -/
theorem intake_output (accept : List Char → Except Fault Int64) :
    (m.intake accept).2.output = m.output.flush.2 := by
  rw [← readLine_output]
  unfold intake
  rcases m.readLine with ⟨f | line, e⟩
  · rfl
  · dsimp only
    cases accept line with
    | error f => rfl
    | ok v => rfl

/-- A reading instruction fails at the flush before it reads, at the line or at what the line
says. Only in the first case is the input left alone, and the stack is kept in all of them. -/
theorem intake_failed {m e : Machine} {accept : List Char → Except Fault Int64} {f : Fault}
    (h : m.intake accept = (.error f, e)) :
    (∃ cause, m.output.flush.1 = some cause ∧ f = .output cause ∧
      e = { m with output := m.output.flush.2 }) ∨
    (e = { m with output := m.output.flush.2, input := m.input.readLine.2 } ∧
      ((∃ fault, m.input.readLine.1 = .error fault ∧ f = Fault.ofLine m.cell fault) ∨
        ∃ line, m.input.readLine.1 = .ok line ∧ accept line = .error f)) := by
  unfold intake at h
  cases hf : m.output.flush.1 with
  | some cause =>
    rw [readLine_of_flush_failed hf] at h
    cases h
    exact .inl ⟨cause, rfl, rfl, rfl⟩
  | none =>
    rw [readLine_of_flushed hf] at h
    cases hr : m.input.readLine.1 with
    | error fault =>
      rw [hr] at h
      cases h
      exact .inr ⟨rfl, .inl ⟨fault, rfl, rfl⟩⟩
    | ok line =>
      rw [hr] at h
      dsimp only [Except.mapError] at h
      cases ha : accept line with
      | error g =>
        rw [ha] at h
        cases h
        exact .inr ⟨rfl, .inr ⟨line, rfl, ha⟩⟩
      | ok v =>
        rw [ha] at h
        simp at h

/-- A writing instruction has popped its word when it fails. -/
theorem emit_failed {m e : Machine} {render : Int64 → Except Fault (List UInt8)} {f : Fault}
    (h : m.emit render = (.error f, e)) :
    (render m.stack.top = .error f ∧ e = { m with stack := m.stack.drop }) ∨
    ∃ piece cause, render m.stack.top = .ok piece ∧
      (m.output.publish piece).1 = some cause ∧ f = .output cause ∧
      e = { m with stack := m.stack.drop, output := (m.output.publish piece).2 } := by
  unfold emit at h
  cases hr : render m.stack.top with
  | error g =>
    rw [hr] at h
    cases h
    exact .inl ⟨rfl, rfl⟩
  | ok piece =>
    simp only [hr, publish_eq] at h
    cases hp : (m.output.publish piece).1 with
    | none => simp [hp, Fault.ofOutput] at h
    | some cause =>
      rw [hp] at h
      cases h
      exact .inr ⟨piece, cause, rfl, hp, rfl, rfl⟩

theorem execute_setting {m e : Machine} {i : Instruction} {answer : Except Fault Unit}
    (h : m.execute i = (answer, e)) : SameSetting m e := by
  rw [show e = (m.execute i).2 by rw [h]]
  obtain hq | ⟨accept, -, hi⟩ | ⟨render, hi⟩ := execute_cases i
  · rw [execute_quiet m hq]
    exact ⟨rfl, rfl, rfl, rfl, rfl, rfl, rfl⟩
  · rw [hi]
    exact (m.intake_heading accept).toSameSetting
  · rw [hi]
    exact (m.emit_heading render).toSameSetting

/-- A failing instruction does not turn the pointer. -/
theorem execute_error_heading {m e : Machine} {i : Instruction} {f : Fault}
    (h : m.execute i = (.error f, e)) : SameHeading m e := by
  obtain hq | ⟨accept, -, hi⟩ | ⟨render, hi⟩ := execute_cases i
  · rw [execute_quiet m hq] at h
    simp at h
  · rw [show e = (m.intake accept).2 by rw [← hi, h]]
    exact m.intake_heading accept
  · rw [show e = (m.emit render).2 by rw [← hi, h]]
    exact m.emit_heading render

inductive Step (m : Machine) : Except Fault Status → Machine → Prop where
  | idle : m.halted = true → Step m (.ok .halted) m
  | halt : m.halted = false → Instruction.decode m.cell = .halt →
      Step m (.ok .halted) { m.count with halted := true }
  | fail {f e} : m.halted = false → Instruction.decode m.cell ≠ .halt →
      m.count.execute (Instruction.decode m.cell) = (.error f, e) → Step m (.error f) e
  | move {e} : m.halted = false → Instruction.decode m.cell ≠ .halt →
      m.count.execute (Instruction.decode m.cell) = (.ok (), e) →
      Step m (.ok .running) e.advance

variable {m} in
theorem step_of_halted (hm : m.halted = true) : m.step = (.ok .halted, m) := by
  simp [step, hm]

section Awake

variable {m} {e : Machine} (hm : m.halted = false)

include hm

theorem step_of_halt (hi : Instruction.decode m.cell = .halt) :
    m.step = (.ok .halted, { m.count with halted := true }) := by
  simp [step, hm, hi]

theorem step_of_fault {f : Fault} (hi : Instruction.decode m.cell ≠ .halt)
    (he : m.count.execute (Instruction.decode m.cell) = (.error f, e)) :
    m.step = (.error f, e) := by
  simp [step, hm, hi, he]

theorem step_of_done (hi : Instruction.decode m.cell ≠ .halt)
    (he : m.count.execute (Instruction.decode m.cell) = (.ok (), e)) :
    m.step = (.ok .running, e.advance) := by
  simp [step, hm, hi, he]

end Awake

theorem step_taken : Step m m.step.1 m.step.2 := by
  cases hm : m.halted with
  | true =>
    rw [step_of_halted hm]
    exact .idle hm
  | false =>
    by_cases hi : Instruction.decode m.cell = .halt
    · rw [step_of_halt hm hi]
      exact .halt hm hi
    · rcases he : m.count.execute (Instruction.decode m.cell) with ⟨answer, e⟩
      cases answer with
      | error f =>
        rw [step_of_fault hm hi he]
        exact .fail hm hi he
      | ok u =>
        rw [step_of_done hm hi he]
        exact .move hm hi he

variable {m} in
/-- A step fails by its instruction and goes no further than that went. -/
theorem step_failed {f : Fault} (h : m.step.1 = .error f) :
    m.halted = false ∧ m.count.execute (Instruction.decode m.cell) = (.error f, m.step.2) := by
  have ht := m.step_taken
  rw [h] at ht
  generalize m.step.2 = m' at ht
  cases ht with
  | fail hm _ he => exact ⟨hm, he⟩

variable {m} in
/-- What fails is a read or a write. A read may reject its line and a write its word. -/
theorem execute_error_cases {i : Instruction} {f : Fault} {e : Machine}
    (h : m.execute i = (.error f, e)) :
    (∃ accept, (i = .readChar ∨ i = .readInt) ∧ m.intake accept = (.error f, e) ∧
      ∀ line g, accept line = .error g →
        g = .emptyCharInput ∨ ∃ cause, g = .malformedInteger line cause) ∨
    (∃ render, (i = .writeInt ∧ render = intText ∨ i = .writeChar ∧ render = charText) ∧
      m.emit render = (.error f, e) ∧
      ∀ v g, render v = .error g → g = .invalidCodePoint v) := by
  cases i with
  | readChar =>
    rw [execute_readChar] at h
    exact .inl ⟨charWord, .inl rfl, h, fun _ _ hg => .inl (charWord_error hg)⟩
  | readInt =>
    rw [execute_readInt] at h
    exact .inl ⟨intWord, .inr rfl, h, fun _ _ hg => .inr (intWord_error hg)⟩
  | writeInt =>
    refine .inr ⟨intText, .inl ⟨rfl, rfl⟩, h, ?_⟩
    intro v g hg
    cases hg
  | writeChar =>
    rw [execute_writeChar] at h
    exact .inr ⟨charText, .inr ⟨rfl, rfl⟩, h, fun _ _ hg => charText_error hg⟩
  | _ =>
    rw [execute_quiet _ rfl] at h
    cases h

/-- The faults that a step can meet. Nothing but the cause of a failing device and the
character of a reading cell comes from outside. -/
inductive Trouble (m : Machine) : Fault → Prop where
  | output {cause} :
      m.output.flush.1 = some cause ∨ (∃ piece, (m.output.publish piece).1 = some cause) →
      Trouble m (.output cause)
  | line {fault} : m.cell = '?' ∨ m.cell = '~' → m.input.readLine.1 = .error fault →
      Trouble m (Fault.ofLine m.cell fault)
  | emptyLine : Trouble m .emptyCharInput
  | notInteger (line cause) : Trouble m (.malformedInteger line cause)
  | noCharacter (v) : Trouble m (.invalidCodePoint v)

variable {m} in
theorem intake_trouble {accept : List Char → Except Fault Int64} {f : Fault} {e : Machine}
    (hcell : m.cell = '?' ∨ m.cell = '~')
    (haccept : ∀ line g, accept line = .error g → m.Trouble g)
    (h : m.intake accept = (.error f, e)) : m.Trouble f := by
  rcases intake_failed h with
    ⟨cause, hcause, rfl, -⟩ | ⟨-, ⟨fault, hfault, rfl⟩ | ⟨line, -, hline⟩⟩
  · exact .output (.inl hcause)
  · exact .line hcell hfault
  · exact haccept line f hline

variable {m} in
theorem emit_trouble {render : Int64 → Except Fault (List UInt8)} {f : Fault} {e : Machine}
    (hrender : ∀ v g, render v = .error g → m.Trouble g)
    (h : m.emit render = (.error f, e)) : m.Trouble f := by
  rcases emit_failed h with ⟨hr, -⟩ | ⟨piece, cause, -, hp, rfl, -⟩
  · exact hrender _ f hr
  · exact .output (.inr ⟨piece, hp⟩)

variable {m} in
theorem step_trouble {f : Fault} (h : m.step.1 = .error f) : m.Trouble f := by
  obtain ⟨-, he⟩ := step_failed h
  -- Counting the step touches nothing that a fault speaks of.
  suffices hcount : m.count.Trouble f by
    cases hcount with
    | output hcause => exact .output hcause
    | line hcell hfault => exact .line hcell hfault
    | emptyLine => exact .emptyLine
    | notInteger line cause => exact .notInteger line cause
    | noCharacter v => exact .noCharacter v
  obtain ⟨accept, hread, he, haccept⟩ | ⟨render, -, he, hrender⟩ := execute_error_cases he
  · refine intake_trouble ((Instruction.decode_reads_iff m.cell).mp hread) ?_ he
    intro line g hg
    rcases haccept line g hg with rfl | ⟨cause, rfl⟩
    · exact .emptyLine
    · exact .notInteger line cause
  · refine emit_trouble ?_ he
    intro v g hg
    rw [hrender v g hg]
    exact .noCharacter v

theorem step_fixed : m.step.2.grid = m.grid ∧ m.step.2.config = m.config := by
  have h := m.step_taken
  generalize m.step.1 = r, m.step.2 = m' at h
  cases h with
  | idle => exact ⟨rfl, rfl⟩
  | halt => exact ⟨rfl, rfl⟩
  | fail _ _ he => exact ⟨(execute_setting he).grid, (execute_setting he).config⟩
  | move _ _ he => exact ⟨(execute_setting he).grid, (execute_setting he).config⟩

theorem step_grid : m.step.2.grid = m.grid := m.step_fixed.1

theorem step_config : m.step.2.config = m.config := m.step_fixed.2

/-- Whatever comes of a step that is taken, it was counted and noted down before. -/
theorem step_counted {m : Machine} (hm : m.halted = false) :
    m.step.2.steps = m.count.steps ∧ m.step.2.journal = m.count.journal := by
  have h := m.step_taken
  generalize m.step.1 = r, m.step.2 = m' at h
  cases h with
  | idle hm' => exact absurd (hm.symm.trans hm') (by simp)
  | halt => exact ⟨rfl, rfl⟩
  | fail _ _ he => exact ⟨(execute_setting he).steps, (execute_setting he).journal⟩
  | move _ _ he => exact ⟨(execute_setting he).steps, (execute_setting he).journal⟩

/-- Halting and failing steps are counted too. -/
theorem step_steps {m : Machine} (hm : m.halted = false) : m.step.2.steps = m.steps + 1 :=
  (step_counted hm).1

/-- A step is noted when it is counted and at no other time. -/
theorem journal_of_awake {m : Machine} (hm : m.halted = false) :
    m.step.2.journal = m.count.journal :=
  (step_counted hm).2

theorem steps_le_step : m.steps ≤ m.step.2.steps := by
  cases hm : m.halted with
  | true => exact Nat.le_of_eq (by rw [step_of_halted hm])
  | false => exact Nat.le_of_lt (by rw [step_steps hm]; omega)

end Machine

end Gridwalk
