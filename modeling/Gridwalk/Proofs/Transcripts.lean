import Gridwalk.Proofs.History
import Gridwalk.Proofs.Pieces

/-!
# The output as a transcript

On a device that takes every byte the output is the text of one executed write after the other.
It does not matter how the steps were driven, which flushes failed and what was tried again.
-/
namespace Gridwalk

theorem Utf8.encode_flatten (texts : List (List Char)) :
    encode texts.flatten = texts.flatMap encode := by
  induction texts with
  | nil => rfl
  | cons text texts ih => rw [List.flatten_cons, encode_append, ih, List.flatMap_cons]

namespace Machine

/-- The text that a step issues when it is executed: the popped integer on a line of its own, or
the popped character if the word stands for one. -/
def issued (m : Machine) : Option (List Char) :=
  if m.cell = '.' then some (Decimal.writeInt m.stack.top.toInt ++ ['\n'])
  else if m.cell = ',' then (CodePoint.toChar? m.stack.top).map fun c => [c]
  else none

/-- The texts that the steps of a history issue, in bytes. -/
def transcript (past : List Machine) : List UInt8 := (past.filterMap issued).flatMap Utf8.encode

variable {m : Machine}

theorem issued_eq_some_iff {text : List Char} :
    m.issued = some text ↔
      (m.cell = '.' ∧ text = Decimal.writeInt m.stack.top.toInt ++ ['\n']) ∨
      (m.cell = ',' ∧ ∃ c, m.stack.top = CodePoint.ofChar c ∧ text = [c]) := by
  by_cases hdot : m.cell = '.'
  · simp [issued, hdot, eq_comm]
  · by_cases hcomma : m.cell = ','
    · have hchar : m.issued = (CodePoint.toChar? m.stack.top).map fun c => [c] := by
        simp [issued, hcomma]
      rw [hchar, Option.map_eq_some_iff]
      constructor
      · rintro ⟨c, hc, rfl⟩
        exact .inr ⟨hcomma, c, (CodePoint.ofChar_of_toChar? hc).symm, rfl⟩
      · rintro (⟨hdot', -⟩ | ⟨-, c, hc, rfl⟩)
        · exact absurd hdot' hdot
        · exact ⟨c, CodePoint.toChar?_eq_some_iff.mpr hc.symm, rfl⟩
    · simp [issued, hdot, hcomma]

theorem issued_of_asks (h : m.cell = '?' ∨ m.cell = '~') : m.issued = none := by
  rcases h with hcell | hcell <;> simp [issued, hcell]

theorem piece_eq_issued (hm : m.halted = false) : m.piece = Utf8.encode (m.issued.getD []) := by
  by_cases hdot : m.cell = '.'
  · simp [piece, issued, hm, hdot, Instruction.decode]
  · by_cases hcomma : m.cell = ','
    · cases hc : CodePoint.toChar? m.stack.top <;>
        simp [piece, issued, hm, hcomma, hc, Instruction.decode]
    · have hquiet : m.piece = [] :=
        Decidable.byContradiction fun hpiece => (cell_of_piece hpiece).elim hdot hcomma
      simp [hquiet, issued, hdot, hcomma]

theorem piece_eq_nil_iff (hm : m.halted = false) : m.piece = [] ↔ m.issued = none := by
  constructor
  · intro hpiece
    cases hissued : m.issued with
    | none => rfl
    | some text =>
      rw [piece_eq_issued hm, hissued, Option.getD_some] at hpiece
      rcases issued_eq_some_iff.mp hissued with ⟨-, rfl⟩ | ⟨-, c, -, rfl⟩
      · rw [Utf8.encode_append] at hpiece
        exact absurd (List.append_eq_nil_iff.mp hpiece).2 (Utf8.encode_singleton_ne_nil '\n')
      · exact absurd hpiece (Utf8.encode_singleton_ne_nil c)
  · intro hissued
    rw [piece_eq_issued hm, hissued]
    rfl

/-- A step that fails but for the device had nothing to issue. -/
theorem issued_of_error {f : Fault} (h : m.step.1 = .error f)
    (hf : ∀ cause, f ≠ .output cause) : m.issued = none := by
  obtain ⟨-, he⟩ := step_failed h
  obtain ⟨accept, hread, -⟩ | ⟨render, hwrite, he, -⟩ := execute_error_cases he
  · exact issued_of_asks ((Instruction.decode_reads_iff m.cell).mp hread)
  · rcases emit_failed he with ⟨hrender, -⟩ | ⟨_, cause, -, -, rfl, -⟩
    · rcases hwrite with ⟨-, rfl⟩ | ⟨hi, rfl⟩
      · cases hrender
      · cases hissued : m.issued with
        | none => rfl
        | some text =>
          rcases issued_eq_some_iff.mp hissued with ⟨hdot, -⟩ | ⟨-, c, hc, -⟩
          · rw [hdot] at hi
            exact absurd hi (by decide)
          · have hok : charText m.count.stack.top = .ok (Utf8.encode [c]) := by
              change charText m.stack.top = _
              simp [charText, hc]
            rw [hok] at hrender
            cases hrender
    · exact absurd rfl (hf cause)

/-- A device that takes every byte holds what was issued. -/
structure Recorded (d : Device) (past : List Machine) (m : Machine) : Prop where
  device : m.output.device = d
  bytes : m.output.bytes.toList = transcript past

theorem transcript_concat (past : List Machine) (hm : m.halted = false) :
    transcript (past ++ [m]) = transcript past ++ m.piece := by
  rw [piece_eq_issued hm]
  cases hissued : m.issued <;> simp [transcript, hissued]

theorem transcript_append (past later : List Machine) :
    transcript (past ++ later) = transcript past ++ transcript later := by
  simp [transcript]

theorem decode_transcript (past : List Machine) :
    Utf8.decode (transcript past) = some (past.filterMap issued).flatten := by
  rw [transcript, ← Utf8.encode_flatten, Utf8.decode_encode]

theorem Recorded.step {d : Device} {past : List Machine}
    (hd : ∀ call held, d.refuse call held = none) (h : Recorded d past m)
    (hm : m.halted = false) : Recorded d (past ++ [m]) m.step.2 := by
  have haccepts : ∀ call held, m.output.device.refuse call held = none := by
    rw [h.device]
    exact hd
  refine ⟨m.step_device.trans h.device, ?_⟩
  rw [step_bytes haccepts, h.bytes, transcript_concat past hm]

theorem Recorded.flush {d : Device} {past : List Machine} (h : Recorded d past m) :
    Recorded d past m.flush.2 := by
  rw [flush_eq]
  exact ⟨(Sink.flush_device _).trans h.device, (congrArg _ (Sink.flush_bytes _)).trans h.bytes⟩

theorem performAll_recorded {g : Grid} {s : Source} {d : Device}
    (hd : ∀ call held, d.refuse call held = none) {fuel : Nat} {calls : List Call}
    {replies : List Reply} (h : (start g s d).performAll fuel calls = some (replies, m)) :
    let past := (start g s d).history fuel calls
    Recorded d past m ∧ ∀ i u, past[i]? = some u → Recorded d (past.take i) u := by
  intro past
  obtain ⟨hnow, hearlier⟩ := performAll_throughout (P := fun _ => Recorded d)
    (fun _ past u hm hu => hu.step hd hm) (fun _ past u hu => hu.flush)
    (fun _ past config u hu => ⟨hu.device, hu.bytes⟩) h ⟨rfl, rfl⟩
  refine ⟨hnow, ?_⟩
  intro i u hu
  obtain ⟨-, hrecorded⟩ := hearlier i u hu
  exact hrecorded

/-- The output is what the executed steps issued, in their order and each text once, whatever they
answered. So after every call of the session it is well-formed text, and it only ever grows. -/
theorem output_is_transcript {g : Grid} {s : Source} {d : Device}
    (hd : ∀ call held, d.refuse call held = none) {fuel : Nat} {calls : List Call}
    {replies : List Reply} {m : Machine}
    (h : (start g s d).performAll fuel calls = some (replies, m)) :
    let past := (start g s d).history fuel calls
    (past.map steps = List.range m.steps ∧ ∀ u ∈ past, u.halted = false) ∧
    m.output.bytes.toList = transcript past ∧
    (∀ i u, past[i]? = some u → u.output.bytes.toList = transcript (past.take i)) ∧
    (∀ u ∈ past, ∀ f, u.step.1 = .error f → (∀ cause, f ≠ .output cause) → u.issued = none) ∧
    ∀ first rest, calls = first ++ rest →
      ∃ early u, (start g s d).performAll fuel first = some (early, u) ∧
        u.output.bytes.toList <+: m.output.bytes.toList ∧
        Utf8.decode u.output.bytes.toList =
          some (((start g s d).history fuel first).filterMap issued).flatten := by
  intro past
  obtain ⟨hrecorded, hearlier⟩ := performAll_recorded hd h
  refine ⟨start_history h, hrecorded.bytes, fun i u hu => (hearlier i u hu).bytes, ?_, ?_⟩
  · exact fun u _ f => issued_of_error
  · rintro first rest rfl
    obtain ⟨early, u, late, hearly, -, hhistory⟩ := performAll_append h
    obtain ⟨hbefore, -⟩ := performAll_recorded hd hearly
    refine ⟨early, u, hearly, ?_, ?_⟩
    · rw [hrecorded.bytes, hbefore.bytes, hhistory, transcript_append]
      exact List.prefix_append _ _
    · rw [hbefore.bytes, decode_transcript]

/-- A word that is no character, a character whose flush fails, the same cell once more, and a
rejected line. The character is written twice because it was issued twice. -/
theorem output_is_transcript_after_failures :
    let d : Device := ⟨fun _ _ => none, fun call _ => if call = 0 then some "busy" else none⟩
    let m₀ := start (Grid.parse "-,~.@".toList) (.ofBytes [120, 10, 55, 10]) d
    let calls := [.step, .step, .step, .configure ⟨some 5, true⟩, .run, .configure {}, .run]
    (∀ call held, d.refuse call held = none) ∧
    ∃ replies m, m₀.performAll 9 calls = some (replies, m) ∧
      (m₀.history 9 calls).filterMap issued = [['\x00'], ['\x00'], ['7', '\n']] ∧
      m.output.bytes.toList = [0, 0, 55, 10] := by
  intro d m₀ calls
  have hrun : (m₀.performAll 9 calls).isSome = true := by decide +kernel
  obtain ⟨⟨replies, m⟩, hcalls⟩ := Option.isSome_iff_exists.mp hrun
  obtain ⟨-, hbytes, -⟩ := output_is_transcript (fun _ _ => rfl) hcalls
  have hissued : (m₀.history 9 calls).filterMap issued =
      [['\x00'], ['\x00'], ['7', '\n']] := by
    decide +kernel
  refine ⟨fun _ _ => rfl, replies, m, hcalls, hissued, ?_⟩
  rw [hbytes, transcript, hissued]
  rfl

end Machine

end Gridwalk
