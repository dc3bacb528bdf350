import Gridwalk.Proofs.Sessions

/-!
# What the steps write

Before a step is taken it is clear what it will write: the text of the top word or nothing. A
device that takes every byte ends up with the pieces of all steps in their order.
-/
namespace Gridwalk

theorem Utf8.encode_singleton_ne_nil (c : Char) : encode [c] ≠ [] :=
  mt encode_eq_nil_iff.mp (List.cons_ne_nil c [])

namespace Sink

theorem flush_device (s : Sink) : s.flush.2.device = s.device := by
  unfold flush
  dsimp only
  split <;> rfl

theorem publish_device (piece : List UInt8) (s : Sink) :
    (s.publish piece).2.device = s.device := by
  unfold publish
  rcases h : s.write piece with ⟨_ | cause, t⟩
  · have hwrite : t.device = s.device := by
      rw [show t = (s.write piece).2 by rw [h]]
      rfl
    exact (flush_device t).trans hwrite
  · rw [show t = (s.write piece).2 by rw [h]]
    rfl

/-- After a flush that succeeded the receiver has everything. -/
theorem received_flush {s : Sink} (h : s.flush.1 = none) : s.flush.2.received = s.bytes.toList := by
  unfold flush at h ⊢
  dsimp only at h ⊢
  split at h
  · simp at h
  · exact List.take_of_length_le (Nat.le_of_eq s.bytes.length_toList)

theorem flush_unrefused {s : Sink}
    (hd : ∀ call held, s.device.refuseFlush call held = none) : s.flush.1 = none := by
  simp [flush, hd]

section Accepting

variable {s : Sink} (hd : ∀ call held, s.device.refuse call held = none)

include hd

theorem write_accepted (piece : List UInt8) :
    s.write piece = (none, { s with bytes := s.bytes ++ piece, writes := s.writes + 1 }) := by
  have key : ∀ held, offer s.device s.writes held piece = (none, held ++ piece) := by
    induction piece with
    | nil =>
      intro held
      simp [offer]
    | cons b rest ih =>
      intro held
      simp only [offer, hd]
      rw [ih]
      simp
  unfold write
  rw [key]

theorem publish_accepted (piece : List UInt8) :
    s.publish piece =
      flush { s with bytes := s.bytes ++ piece, writes := s.writes + 1 } := by
  rw [publish, write_accepted hd]

theorem publish_bytes (piece : List UInt8) :
    (s.publish piece).2.bytes.toList = s.bytes.toList ++ piece := by
  rw [publish_accepted hd, flush_bytes]
  simp

end Accepting

section Working

variable {s : Sink} (hd : s.device = .working)

include hd

theorem accepts_of_working (call held : Nat) : s.device.refuse call held = none := by
  rw [hd]
  rfl

theorem flush_working : s.flush.1 = none := by
  apply flush_unrefused
  rw [hd]
  exact fun _ _ => rfl

theorem publish_working (piece : List UInt8) : (s.publish piece).1 = none := by
  rw [publish_accepted (accepts_of_working hd)]
  exact flush_working hd

end Working

end Sink

namespace Machine

/-- What the next step has to write. -/
def piece (m : Machine) : List UInt8 :=
  if m.halted then []
  else
    match Instruction.decode m.cell with
    | .writeInt => Utf8.encode (Decimal.writeInt m.stack.top.toInt ++ ['\n'])
    | .writeChar =>
      match CodePoint.toChar? m.stack.top with
      | some c => Utf8.encode [c]
      | none => []
    | _ => []

/-- What the first `n` steps have to write, in their order. -/
def written (m : Machine) (n : Nat) : List UInt8 :=
  (List.range n).flatMap fun k => (m.after k).piece

variable {m : Machine}

theorem written_succ (n : Nat) : m.written (n + 1) = m.written n ++ (m.after n).piece := by
  simp [written, List.range_succ]

theorem piece_of_halted (hm : m.halted = true) : m.piece = [] := by
  simp [piece, hm]

theorem piece_of_halt (hi : Instruction.decode m.cell = .halt) : m.piece = [] := by
  simp [piece, hi]

theorem cell_of_piece (hp : m.piece ≠ []) : m.cell = '.' ∨ m.cell = ',' := by
  apply (Instruction.decode_writes_iff m.cell).mp
  cases hi : Instruction.decode m.cell with
  | writeInt => exact .inl rfl
  | writeChar => exact .inr rfl
  | _ => exact absurd (by simp [piece, hi]) hp

/-- What an instruction has to do with output, on every machine with the stack of this one. -/
inductive Traffic (m : Machine) (i : Instruction) : Prop where
  | none : m.piece = [] → i.isQuiet = true → Traffic m i
  | takes (accept) : m.piece = [] → (∀ a : Machine, a.execute i = a.intake accept) → Traffic m i
  | refuses (f) : m.piece = [] →
      (∀ a : Machine, a.stack = m.stack →
        a.execute i = (.error f, { a with stack := a.stack.drop })) → Traffic m i
  | gives : m.piece ≠ [] →
      (∀ a : Machine, a.stack = m.stack →
        a.execute i = publish m.piece { a with stack := a.stack.drop }) → Traffic m i

theorem traffic (hm : m.halted = false) : Traffic m (Instruction.decode m.cell) := by
  cases hi : Instruction.decode m.cell with
  | readChar => exact .takes _ (by simp [piece, hi]) execute_readChar
  | readInt => exact .takes _ (by simp [piece, hi]) execute_readInt
  | writeInt =>
    have hpiece : m.piece = Utf8.encode (Decimal.writeInt m.stack.top.toInt ++ ['\n']) := by
      simp [piece, hm, hi]
    refine .gives ?_ ?_
    · rw [hpiece, Utf8.encode_append]
      exact List.append_ne_nil_of_right_ne_nil _ (Utf8.encode_singleton_ne_nil '\n')
    · intro a ha
      rw [execute_writeInt, emit, ha, hpiece]
      rfl
  | writeChar =>
    cases hc : CodePoint.toChar? m.stack.top with
    | none =>
      refine .refuses (.invalidCodePoint m.stack.top) (by simp [piece, hi, hc]) ?_
      intro a ha
      simp [execute_writeChar, emit, charText, ha, hc]
    | some c =>
      have hpiece : m.piece = Utf8.encode [c] := by simp [piece, hm, hi, hc]
      refine .gives (hpiece ▸ Utf8.encode_singleton_ne_nil c) ?_
      intro a ha
      simp [execute_writeChar, emit, charText, ha, hc, hpiece]
  | _ => exact .none (by simp [piece, hi]) rfl

/-- A step leaves the sink alone, flushes it or offers its piece to it. -/
theorem step_output (m : Machine) :
    (m.piece = [] ∧ (m.step.2.output = m.output ∨ m.step.2.output = m.output.flush.2)) ∨
    (m.piece ≠ [] ∧ m.step.2.output = (m.output.publish m.piece).2) := by
  have ht := m.step_taken
  generalize m.step.1 = answer, m.step.2 = m' at ht
  have executed : m.halted = false → ∀ answer e,
      m.count.execute (Instruction.decode m.cell) = (answer, e) →
      (m.piece = [] ∧ (e.output = m.output ∨ e.output = m.output.flush.2)) ∨
      (m.piece ≠ [] ∧ e.output = (m.output.publish m.piece).2) := by
    intro hm answer e he
    rw [show e = (m.count.execute (Instruction.decode m.cell)).2 by rw [he]]
    cases traffic hm with
    | none hpiece hq =>
      rw [execute_quiet _ hq]
      exact .inl ⟨hpiece, .inl rfl⟩
    | takes accept hpiece hi =>
      rw [hi]
      exact .inl ⟨hpiece, .inr (m.count.intake_output accept)⟩
    | refuses f hpiece hi =>
      rw [hi m.count rfl]
      exact .inl ⟨hpiece, .inl rfl⟩
    | gives hpiece hi =>
      rw [hi m.count rfl, publish_eq]
      exact .inr ⟨hpiece, rfl⟩
  cases ht with
  | idle hm => exact .inl ⟨piece_of_halted hm, .inl rfl⟩
  | halt _ hi => exact .inl ⟨piece_of_halt hi, .inl rfl⟩
  | fail hm _ he => exact executed hm _ _ he
  | @move e hm _ he => exact executed hm (.ok ()) e he

theorem step_device (m : Machine) : m.step.2.output.device = m.output.device := by
  rcases m.step_output with ⟨-, h | h⟩ | ⟨-, h⟩
  · rw [h]
  · rw [h, Sink.flush_device]
  · rw [h, Sink.publish_device]

theorem after_device (n : Nat) (m : Machine) : (m.after n).output.device = m.output.device :=
  after_preserves (P := fun u => u.output.device = m.output.device)
    (fun u hu => u.step_device.trans hu) n rfl

theorem after_flushed (hd : ∀ call held, m.output.device.refuseFlush call held = none)
    (n : Nat) : (m.after n).output.flush.1 = none := by
  apply Sink.flush_unrefused
  rw [after_device]
  exact hd

section Accepted

variable (hd : ∀ call held, m.output.device.refuse call held = none)

include hd

theorem step_bytes : m.step.2.output.bytes.toList = m.output.bytes.toList ++ m.piece := by
  rcases m.step_output with ⟨hpiece, h | h⟩ | ⟨-, h⟩
  · rw [h, hpiece, List.append_nil]
  · rw [h, hpiece, List.append_nil, Sink.flush_bytes]
  · rw [h, Sink.publish_bytes hd]

theorem after_bytes (n : Nat) :
    (m.after n).output.bytes.toList = m.output.bytes.toList ++ m.written n := by
  induction n with
  | zero => simp [written, after]
  | succ n ih =>
    have hdevice : ∀ call held, (m.after n).output.device.refuse call held = none := by
      rw [after_device]
      exact hd
    rw [after_succ, step_bytes hdevice, ih, written_succ, List.append_assoc]

end Accepted

end Machine

end Gridwalk
