import Gridwalk.Proofs.Lines
import Gridwalk.Proofs.Pieces

/-!
# What a failed step leaves behind

Only reading and writing can fail. A failed read costs at most the one line it was reading, a
failed write the word it popped, and the device keeps what it took of the text before it failed.
The step is counted and all else is as it was, with the pointer still on the same cell.
-/
namespace Gridwalk

namespace Sink

/-- How a text did not get through: the device took only a part of it, or took all of it and
then could not be flushed. -/
inductive Interrupted (s : Sink) (text : List UInt8) (cause : String) (s' : Sink) : Prop where
  | refused (part b rest) : text = part ++ b :: rest →
      s.device.refuse s.writes (s.bytes.size + part.length) = some cause →
      s'.bytes.toList = s.bytes.toList ++ part → s'.flushes = s.flushes →
      Interrupted s text cause s'
  | unflushed : s.device.refuseFlush s.flushes.size s'.bytes.size = some cause →
      s'.bytes.toList = s.bytes.toList ++ text → s'.flushes = s.flushes.push s'.bytes.size →
      Interrupted s text cause s'

variable {device : Device} {call : Nat} {held held' : Array UInt8} {text : List UInt8}

theorem offer_taken (h : offer device call held text = (none, held')) :
    held'.toList = held.toList ++ text := by
  induction text generalizing held with
  | nil =>
    rw [offer, Prod.mk.injEq] at h
    rw [← h.2, List.append_nil]
  | cons b rest ih =>
    cases hb : device.refuse call held.size with
    | some cause => simp [offer, hb] at h
    | none =>
      simp only [offer, hb] at h
      rw [ih h, Array.toList_push, List.append_assoc, List.singleton_append]

/-- The refused byte comes right after those that were taken. -/
theorem offer_refused {cause : String} (h : offer device call held text = (some cause, held')) :
    ∃ part b rest, text = part ++ b :: rest ∧
      device.refuse call (held.size + part.length) = some cause ∧
      held'.toList = held.toList ++ part := by
  induction text generalizing held with
  | nil => simp [offer] at h
  | cons b rest ih =>
    cases hb : device.refuse call held.size with
    | some first =>
      simp only [offer, hb, Prod.mk.injEq, Option.some.injEq] at h
      obtain ⟨rfl, rfl⟩ := h
      exact ⟨[], b, rest, rfl, hb, (List.append_nil _).symm⟩
    | none =>
      simp only [offer, hb] at h
      obtain ⟨part, c, others, rfl, hc, hheld⟩ := ih h
      refine ⟨b :: part, c, others, rfl, ?_, ?_⟩
      · rw [Array.size_push, Nat.add_assoc, Nat.add_comm 1] at hc
        exact hc
      · rw [hheld, Array.toList_push, List.append_assoc, List.singleton_append]

theorem publish_interrupted {s : Sink} {cause : String} (h : (s.publish text).1 = some cause) :
    s.Interrupted text cause (s.publish text).2 := by
  rcases hw : s.write text with ⟨failure, t⟩
  have hoffer : offer s.device s.writes s.bytes text = (failure, t.bytes) := by
    rw [write, Prod.mk.injEq] at hw
    rw [← hw.1, ← hw.2]
  have hrest : t.flushes = s.flushes ∧ t.device = s.device := by
    rw [show t = (s.write text).2 by rw [hw]]
    exact ⟨rfl, rfl⟩
  cases failure with
  | some first =>
    rw [publish, hw] at h ⊢
    dsimp only at h ⊢
    rw [Option.some.injEq] at h
    subst h
    obtain ⟨part, b, rest, htext, hrefused, hbytes⟩ := offer_refused hoffer
    exact .refused part b rest htext hrefused hbytes hrest.1
  | none =>
    rw [publish, hw] at h ⊢
    dsimp only at h ⊢
    have hbytes : t.bytes.toList = s.bytes.toList ++ text := offer_taken hoffer
    unfold flush at h ⊢
    rw [hrest.1, hrest.2] at h ⊢
    dsimp only at h ⊢
    cases hf : s.device.refuseFlush s.flushes.size t.bytes.size with
    | none => simp [hf] at h
    | some first =>
      rw [hf] at h
      dsimp only at h ⊢
      rw [Option.some.injEq] at h
      subst h
      exact .unflushed hf hbytes rfl

end Sink

namespace Machine

/-- A read that failed. A line that was begun is lost, also when the device failed within it. -/
structure FailedRead (m : Machine) (f : Fault) (m' : Machine) : Prop where
  stack : m'.stack = m.stack
  bytes : m'.output.bytes = m.output.bytes
  unflushed : ∀ cause, f = .output cause →
    m.output.flush.1 = some cause ∧ m'.input = m.input
  exhausted : ∀ c, f = .inputExhausted c → m.input = .eof ∧ m'.input = m.input
  lost : (∀ cause, f ≠ .output cause) → (∀ c, f ≠ .inputExhausted c) →
    ∃ line failure, m.input.Gives line failure m'.input ∧
      (∀ cause, failure = some cause → f = .input cause) ∧ (failure = none → line ≠ [])

/-- A write that failed. The text is that of the word on top, which is gone. -/
structure FailedWrite (m : Machine) (f : Fault) (m' : Machine) : Prop where
  input : m'.input = m.input
  stack : m'.stack = m.stack.drop
  fault : f = .invalidCodePoint m.stack.top ∨ ∃ cause, f = .output cause
  unprintable : ∀ v, f = .invalidCodePoint v → m'.output = m.output
  interrupted : ∀ cause, f = .output cause → m.output.Interrupted m.piece cause m'.output

variable {m e : Machine} {f : Fault}

/-- What a line is rejected for is neither the output nor the end of the input. -/
theorem intake_failedRead {accept : List Char → Except Fault Int64}
    (haccept : ∀ line g, accept line = .error g →
      (∀ cause, g ≠ .output cause) ∧ ∀ c, g ≠ .inputExhausted c)
    (h : m.intake accept = (.error f, e)) : FailedRead m f e := by
  rcases intake_failed h with ⟨cause, hcause, rfl, rfl⟩ | ⟨rfl, hfault⟩
  · refine ⟨rfl, Sink.flush_bytes _, ?_, ?_, ?_⟩
    · intro c hc
      cases hc
      exact ⟨hcause, rfl⟩
    · intro c hc
      cases hc
    · intro houtput
      exact absurd rfl (houtput cause)
  · have hgives := m.input.takeLine_gives
    have hread := hgives.readLine
    generalize m.input.takeLine.1 = line, m.input.takeLine.2.1 = failure,
      m.input.takeLine.2.2 = rest at hgives hread
    refine ⟨rfl, Sink.flush_bytes _, ?_, ?_, ?_⟩
    · rintro cause rfl
      rcases hfault with ⟨fault, -, hf⟩ | ⟨line, -, hline⟩
      · cases fault <;> cases hf
      · exact absurd rfl ((haccept line _ hline).1 cause)
    · rintro c rfl
      rcases hfault with ⟨fault, hfault, hf⟩ | ⟨line, -, hline⟩
      · cases fault <;> cases hf
        have heof := Source.eq_eof_of_exhausted hfault
        refine ⟨heof, ?_⟩
        change m.input.readLine.2 = m.input
        rw [heof]
        rfl
      · exact absurd rfl ((haccept line _ hline).2 c)
    · intro houtput hexhausted
      refine ⟨line, failure, ?_, ?_, ?_⟩
      · change m.input.Gives line failure m.input.readLine.2
        rw [hread]
        exact hgives
      · rintro cause rfl
        rcases hfault with ⟨fault, hfault, hf⟩ | ⟨text, htext, -⟩
        · rw [hread] at hfault
          cases hfault
          exact hf
        · rw [hread] at htext
          cases htext
      · rintro rfl rfl
        rcases hfault with ⟨fault, hfault, hf⟩ | ⟨text, htext, -⟩
        · rw [hread] at hfault
          cases hfault
          exact hexhausted m.cell hf
        · rw [hread] at htext
          cases htext

theorem emit_failedWrite {render : Int64 → Except Fault (List UInt8)}
    (herror : ∀ g, render m.stack.top = .error g → g = .invalidCodePoint m.stack.top)
    (htext : ∀ text, render m.stack.top = .ok text → text = m.piece)
    (h : m.count.emit render = (.error f, e)) : FailedWrite m f e := by
  rcases emit_failed h with ⟨hrender, rfl⟩ | ⟨text, cause, hrender, hcause, rfl, rfl⟩
  · have hf := herror f hrender
    refine ⟨rfl, rfl, .inl hf, fun v _ => rfl, ?_⟩
    rintro cause rfl
    cases hf
  · have hpiece := htext text hrender
    subst hpiece
    refine ⟨rfl, rfl, .inr ⟨cause, rfl⟩, ?_, ?_⟩
    · intro v hv
      cases hv
    · intro other hother
      cases hother
      exact Sink.publish_interrupted hcause

/-- A text that comes out of the word on top is what the step has to write. -/
theorem eq_piece_of_render (hm : m.halted = false)
    {render : Int64 → Except Fault (List UInt8)} {text : List UInt8}
    (hwrite : Instruction.decode m.cell = .writeInt ∧ render = intText ∨
      Instruction.decode m.cell = .writeChar ∧ render = charText)
    (h : render m.stack.top = .ok text) : text = m.piece := by
  rcases hwrite with ⟨hi, rfl⟩ | ⟨hi, rfl⟩
  · cases h
    simp [piece, hm, hi]
  · unfold charText at h
    cases hc : CodePoint.toChar? m.stack.top with
    | none =>
      rw [hc] at h
      cases h
    | some c =>
      rw [hc] at h
      cases h
      simp [piece, hm, hi, hc]

theorem execute_failed (hm : m.halted = false)
    (h : m.count.execute (Instruction.decode m.cell) = (.error f, e)) :
    ((m.cell = '?' ∨ m.cell = '~') ∧ FailedRead m f e) ∨
    ((m.cell = '.' ∨ m.cell = ',') ∧ FailedWrite m f e) := by
  obtain ⟨accept, hread, he, haccept⟩ | ⟨render, hwrite, he, hrender⟩ := execute_error_cases h
  · refine .inl ⟨(Instruction.decode_reads_iff m.cell).mp hread, ?_⟩
    have hfailed : FailedRead m.count f e := by
      refine intake_failedRead ?_ he
      intro line g hg
      rcases haccept line g hg with rfl | ⟨cause, rfl⟩
      · exact ⟨nofun, nofun⟩
      · exact ⟨nofun, nofun⟩
    exact ⟨hfailed.stack, hfailed.bytes, hfailed.unflushed, hfailed.exhausted, hfailed.lost⟩
  · refine .inr ⟨(Instruction.decode_writes_iff m.cell).mp ?_, ?_⟩
    · exact hwrite.imp And.left And.left
    · exact emit_failedWrite (hrender m.stack.top) (fun _ => eq_piece_of_render hm hwrite) he

theorem failed_step_leaves {m m' : Machine} {f : Fault} (h : m.step = (.error f, m')) :
    (m'.steps = m.steps + 1 ∧ m'.x = m.x ∧ m'.y = m.y ∧ m'.direction = m.direction ∧
      m'.halted = m.halted ∧ m'.grid = m.grid ∧ m'.config = m.config) ∧
    (((m.cell = '?' ∨ m.cell = '~') ∧ FailedRead m f m') ∨
      ((m.cell = '.' ∨ m.cell = ',') ∧ FailedWrite m f m')) := by
  have ht := m.step_taken
  rw [h] at ht
  cases ht with
  | fail hm _ he =>
    have hsame := execute_error_heading he
    refine ⟨?_, execute_failed hm he⟩
    exact ⟨hsame.steps, hsame.x, hsame.y, hsame.direction, hsame.halted, hsame.grid,
      hsame.config⟩

/-- The device takes the first of two bytes. The source breaks off within a line, of which the
step keeps nothing, and a line that is no integer is lost as a whole. -/
theorem failed_step_leaves_parts :
    let a := { start (Grid.parse ",".toList) .eof (.capped 1 "full") with stack := ⟨[233, 7]⟩ }
    let b := start (Grid.parse "?".toList) (.byte 97 (.fault "gone" (.ofBytes [98]))) .working
    let c := start (Grid.parse "~".toList) (.ofBytes [120, 10, 49]) .working
    (FailedWrite a (.output "full") a.step.2 ∧ a.step.2.output.bytes = #[0xC3]) ∧
    (FailedRead b (.input "gone") b.step.2 ∧ b.step.2.input = .ofBytes [98]) ∧
    (FailedRead c (.malformedInteger ['x'] .invalidDigit) c.step.2 ∧
      c.step.2.input = .ofBytes [49]) := by
  intro a b c
  have ha : a.step = (.error (.output "full"), a.step.2) := by rfl
  have hb : b.step = (.error (.input "gone"), b.step.2) := by rfl
  have hc : c.step = (.error (.malformedInteger ['x'] .invalidDigit), c.step.2) := by
    rfl
  refine ⟨⟨?_, by decide +kernel⟩, ⟨?_, by decide +kernel⟩, ?_, by decide +kernel⟩
  · exact ((failed_step_leaves ha).2.resolve_left fun h => absurd h.1 (by decide)).2
  · exact ((failed_step_leaves hb).2.resolve_right fun h => absurd h.1 (by decide)).2
  · exact ((failed_step_leaves hc).2.resolve_right fun h => absurd h.1 (by decide)).2

end Machine

end Gridwalk
