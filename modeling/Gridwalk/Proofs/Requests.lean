import Gridwalk.Proofs.Lines
import Gridwalk.Proofs.Pieces

/-!
# What a step asks of the output

A step turns to the output once at most: it flushes before it reads a line, or it has a piece
written and flushed. The answer decides how the step goes on, and nothing else that lies behind
the output is seen by it.
-/
namespace Gridwalk

namespace Sink

inductive Request where
  | nothing
  | flush
  | publish (piece : List UInt8)
  deriving DecidableEq

def serve : Request → Sink → Option String × Sink
  | .nothing, s => (none, s)
  | .flush, s => s.flush
  | .publish piece, s => s.publish piece

theorem serve_device (r : Request) (s : Sink) : (s.serve r).2.device = s.device := by
  cases r with
  | nothing => rfl
  | flush => exact flush_device s
  | publish piece => exact publish_device piece s

theorem serve_working {s : Sink} (hd : s.device = .working) (r : Request) :
    (s.serve r).1 = none := by
  cases r with
  | nothing => rfl
  | flush => exact flush_working hd
  | publish piece => exact publish_working hd piece

end Sink

namespace Machine

def into (u : Sink) (m : Machine) : Machine := { m with output := u }

def request (m : Machine) : Sink.Request :=
  if m.Asks then .flush else if m.piece = [] then .nothing else .publish m.piece

variable {m : Machine} {u : Sink}

theorem request_of_asks (h : m.Asks) : m.request = .flush := if_pos h

theorem request_of_silent (h : ¬ m.Asks) (hp : m.piece = []) : m.request = .nothing := by
  simp [request, h, hp]

/-- What asks for a line writes nothing, so a piece is always published. -/
theorem piece_of_asks (h : m.Asks) : m.piece = [] := by
  rcases (Instruction.decode_reads_iff m.cell).mpr h.2 with hi | hi <;> simp [piece, hi]

theorem request_of_piece (hp : m.piece ≠ []) : m.request = .publish m.piece := by
  have hsilent : ¬ m.Asks := fun h => hp (piece_of_asks h)
  simp [request, hsilent, hp]

theorem readLine_into (h : u.flush.1 = m.output.flush.1) :
    (m.into u).readLine = (m.readLine.1, m.readLine.2.into u.flush.2) := by
  cases hf : m.output.flush.1 with
  | some cause =>
    rw [readLine_of_flush_failed hf, readLine_of_flush_failed (m := m.into u) (h.trans hf)]
    rfl
  | none =>
    rw [readLine_of_flushed hf, readLine_of_flushed (m := m.into u) (h.trans hf)]
    rfl

theorem intake_into (h : u.flush.1 = m.output.flush.1)
    (accept : List Char → Except Fault Int64) :
    (m.into u).intake accept = ((m.intake accept).1, (m.intake accept).2.into u.flush.2) := by
  rw [intake, intake, readLine_into h]
  rcases m.readLine with ⟨f | line, e⟩
  · rfl
  · dsimp only
    cases accept line <;> rfl

theorem emit_into {render : Int64 → Except Fault (List UInt8)}
    (hrender : (∃ f, render m.stack.top = .error f ∧ m.piece = []) ∨
      render m.stack.top = .ok m.piece ∧ m.piece ≠ [])
    (hsilent : ¬ m.Asks) (h : (u.serve m.request).1 = (m.output.serve m.request).1) :
    (m.into u).emit render =
      ((m.emit render).1, (m.emit render).2.into (u.serve m.request).2) := by
  have hstack : (m.into u).stack = m.stack := rfl
  rw [emit, emit, hstack]
  rcases hrender with ⟨f, hf, hpiece⟩ | ⟨hok, hpiece⟩
  · rw [hf, request_of_silent hsilent hpiece]
    rfl
  · rw [request_of_piece hpiece] at h ⊢
    simp only [hok, publish_eq]
    exact Prod.ext (congrArg Fault.ofOutput h) rfl

/-- A word is rendered as the piece to write, or there is nothing to write. -/
theorem render_of_writes (hm : m.halted = false)
    {render : Int64 → Except Fault (List UInt8)}
    (h : Instruction.decode m.cell = .writeInt ∧ render = intText ∨
      Instruction.decode m.cell = .writeChar ∧ render = charText) :
    (∃ f, render m.stack.top = .error f ∧ m.piece = []) ∨
      render m.stack.top = .ok m.piece ∧ m.piece ≠ [] := by
  rcases h with ⟨hi, rfl⟩ | ⟨hi, rfl⟩
  · have hpiece : m.piece = Utf8.encode (Decimal.writeInt m.stack.top.toInt ++ ['\n']) := by
      simp [piece, hm, hi]
    refine .inr ⟨by rw [hpiece, intText], ?_⟩
    rw [hpiece, Utf8.encode_append]
    exact List.append_ne_nil_of_right_ne_nil _ (Utf8.encode_singleton_ne_nil '\n')
  · cases hc : CodePoint.toChar? m.stack.top with
    | none => exact .inl ⟨.invalidCodePoint m.stack.top, by simp [charText, hc],
        by simp [piece, hi, hc]⟩
    | some c =>
      have hpiece : m.piece = Utf8.encode [c] := by simp [piece, hm, hi, hc]
      exact .inr ⟨by simp [charText, hc, hpiece], hpiece ▸ Utf8.encode_singleton_ne_nil c⟩

theorem piece_of_quiet (h : (Instruction.decode m.cell).isQuiet = true) : m.piece = [] := by
  cases hi : Instruction.decode m.cell <;> simp_all [piece, Instruction.isQuiet]

/-- An instruction does alike on two outputs that serve it alike. -/
theorem execute_into (hm : m.halted = false)
    (h : (u.serve m.request).1 = (m.output.serve m.request).1) :
    (m.into u).execute (Instruction.decode m.cell) =
      ((m.execute (Instruction.decode m.cell)).1,
        (m.execute (Instruction.decode m.cell)).2.into (u.serve m.request).2) := by
  by_cases hasks : m.Asks
  · rw [request_of_asks hasks] at h ⊢
    obtain ⟨accept, -, hread⟩ := hasks.execute
    rw [hread, hread]
    exact intake_into h accept
  · have hreads : ¬ (Instruction.decode m.cell = .readChar ∨
        Instruction.decode m.cell = .readInt) := fun hread =>
      hasks ⟨hm, (Instruction.decode_reads_iff m.cell).mp hread⟩
    cases hi : Instruction.decode m.cell with
    | readChar => exact absurd (.inl hi) hreads
    | readInt => exact absurd (.inr hi) hreads
    | writeInt =>
      rw [execute_writeInt, execute_writeInt]
      exact emit_into (render_of_writes hm (.inl ⟨hi, rfl⟩)) hasks h
    | writeChar =>
      rw [execute_writeChar, execute_writeChar]
      exact emit_into (render_of_writes hm (.inr ⟨hi, rfl⟩)) hasks h
    | _ =>
      rw [request_of_silent hasks (piece_of_quiet (by rw [hi]; rfl))]
      rw [execute_quiet _ rfl, execute_quiet _ rfl]
      rfl

theorem request_of_halt (hi : Instruction.decode m.cell = .halt) : m.request = .nothing := by
  refine request_of_silent ?_ (piece_of_halt hi)
  intro hasks
  rcases (Instruction.decode_reads_iff m.cell).mpr hasks.2 with hread | hread <;>
    simp [hread] at hi

/-- A step depends on the output only through how its request is served. -/
theorem step_into (h : (u.serve m.request).1 = (m.output.serve m.request).1) :
    (m.into u).step = (m.step.1, m.step.2.into (u.serve m.request).2) := by
  cases hm : m.halted with
  | true =>
    have hasks : ¬ m.Asks := fun hasks => absurd (hasks.1.symm.trans hm) Bool.false_ne_true
    rw [request_of_silent hasks (piece_of_halted hm), step_of_halted hm,
      step_of_halted (m := m.into u) hm]
    rfl
  | false =>
    by_cases hi : Instruction.decode m.cell = .halt
    · rw [request_of_halt hi, step_of_halt hm hi, step_of_halt (m := m.into u) hm hi]
      rfl
    · have he : (m.count.into u).execute (Instruction.decode m.cell) =
          ((m.count.execute (Instruction.decode m.cell)).1,
            (m.count.execute (Instruction.decode m.cell)).2.into (u.serve m.request).2) :=
        execute_into (m := m.count) hm h
      rcases hx : m.count.execute (Instruction.decode m.cell) with ⟨f | _, e⟩
      · rw [hx] at he
        rw [step_of_fault hm hi hx, step_of_fault (m := m.into u) hm hi he]
      · rw [hx] at he
        rw [step_of_done hm hi hx, step_of_done (m := m.into u) hm hi he]
        rfl

theorem step_sink (m : Machine) : m.step.2.output = (m.output.serve m.request).2 :=
  congrArg (fun p => p.2.output) (step_into (m := m) (u := m.output) rfl)

/-- A piece that does not get through ends the step, with its word gone. -/
theorem step_of_unpublished (hp : m.piece ≠ []) {cause : String}
    (h : (m.output.publish m.piece).1 = some cause) :
    m.step = (.error (.output cause), { m.count with
      stack := m.stack.drop, output := (m.output.publish m.piece).2 }) := by
  have hm : m.halted = false := by
    cases hm : m.halted with
    | false => rfl
    | true => exact absurd (piece_of_halted hm) hp
  have hi : Instruction.decode m.cell ≠ .halt := fun hi => hp (piece_of_halt hi)
  apply step_of_fault hm hi
  cases traffic hm with
  | none hpiece _ => exact absurd hpiece hp
  | takes _ hpiece _ => exact absurd hpiece hp
  | refuses _ hpiece _ => exact absurd hpiece hp
  | gives _ he =>
    rw [he m.count rfl, publish_eq]
    exact Prod.ext (congrArg Fault.ofOutput h) rfl

end Machine

end Gridwalk
