import Gridwalk.Proofs.Endings
import Gridwalk.Proofs.Requests
import Gridwalk.Proofs.Transcripts

/-!
# When the output is flushed

Whatever is written is flushed in the same step, and the output is flushed before a line is
read and at the end of a run. So nothing is ever left behind in a program that has to be
killed, and every flush has its instruction or its run.
-/
namespace Gridwalk

namespace Sink

/-- Nothing is pending: the latest flush came after the latest byte and delivered it. -/
structure Clear (s : Sink) : Prop where
  latest : s.bytes ≠ #[] → s.flushes.back? = some s.bytes.size
  received : s.received = s.bytes.toList

/-- Neither writes nor flushes ever fail. -/
structure Reliable (s : Sink) : Prop where
  accepts : ∀ call held, s.device.refuse call held = none
  flushes : ∀ call held, s.device.refuseFlush call held = none

variable {s : Sink}

theorem flush_flushes (s : Sink) : s.flush.2.flushes = s.flushes.push s.bytes.size := by
  unfold flush
  dsimp only
  split <;> rfl

theorem flush_writes (s : Sink) : s.flush.2.writes = s.writes := by
  unfold flush
  dsimp only
  split <;> rfl

theorem flush_clear (h : s.flush.1 = none) : s.flush.2.Clear := by
  constructor
  · intro _
    rw [flush_flushes, flush_bytes, Array.back?_push]
  · rw [received_flush h, flush_bytes]

/-- How many flushes a request takes when nothing goes wrong. -/
def Request.flushes : Request → Nat
  | .nothing => 0
  | .flush => 1
  | .publish _ => 1

section Reliable

variable (hs : s.Reliable)

include hs

theorem Reliable.serve (r : Request) : (s.serve r).2.Reliable := by
  constructor
  · rw [serve_device]
    exact hs.accepts
  · rw [serve_device]
    exact hs.flushes

theorem Reliable.publish (piece : List UInt8) : (s.publish piece).1 = none := by
  rw [publish_accepted hs.accepts]
  exact flush_unrefused hs.flushes

theorem Reliable.serve_clear (h : s.Clear) (r : Request) : (s.serve r).2.Clear := by
  cases r with
  | nothing => exact h
  | flush => exact flush_clear (flush_unrefused hs.flushes)
  | publish piece =>
    rw [Sink.serve, publish_accepted hs.accepts]
    exact flush_clear (flush_unrefused hs.flushes)

theorem Reliable.serve_flushes (r : Request) :
    (s.serve r).2.flushes.size = s.flushes.size + r.flushes := by
  cases r with
  | nothing => rfl
  | flush =>
    rw [Sink.serve, flush_flushes, Array.size_push]
    rfl
  | publish piece =>
    rw [Sink.serve, publish_accepted hs.accepts, flush_flushes, Array.size_push]
    rfl

end Reliable

end Sink

namespace Machine

/-- The flushes that a history and a number of runs account for. -/
def flushCount (past : List Machine) (runs : Nat) : Nat :=
  past.countP (fun u => u.cell = '.') +
    past.countP (fun u => u.cell = ',' ∧ (CodePoint.toChar? u.stack.top).isSome) +
    past.countP (fun u => u.cell = '?' ∨ u.cell = '~') + runs

variable {m : Machine}

theorem request_flushes_of_silent (hm : m.halted = false) (h : ¬ m.Asks) :
    m.request.flushes = if m.issued = none then 0 else 1 := by
  by_cases hissued : m.issued = none
  · rw [request_of_silent h ((piece_eq_nil_iff hm).mpr hissued), if_pos hissued]
    rfl
  · rw [request_of_piece (mt (piece_eq_nil_iff hm).mp hissued), if_neg hissued]
    rfl

/-- What a step flushes is counted under its own cell. -/
theorem request_flushes (hm : m.halted = false) :
    m.request.flushes = (if m.cell = '.' then 1 else 0) +
      (if m.cell = ',' ∧ (CodePoint.toChar? m.stack.top).isSome then 1 else 0) +
      (if m.cell = '?' ∨ m.cell = '~' then 1 else 0) := by
  by_cases hreads : m.cell = '?' ∨ m.cell = '~'
  · rw [request_of_asks ⟨hm, hreads⟩]
    rcases hreads with hcell | hcell <;> simp [hcell, Sink.Request.flushes]
  · rw [request_flushes_of_silent hm fun hasks => hreads hasks.2, if_neg hreads, issued]
    by_cases hdot : m.cell = '.'
    · simp [hdot]
    · by_cases hcomma : m.cell = ','
      · cases hc : CodePoint.toChar? m.stack.top <;> simp [hcomma]
      · simp [hdot, hcomma]

theorem flushCount_concat (hm : m.halted = false) (past : List Machine) (runs : Nat) :
    flushCount (past ++ [m]) runs = flushCount past runs + m.request.flushes := by
  rw [request_flushes hm]
  simp only [flushCount, List.countP_append, List.countP_singleton, decide_eq_true_eq]
  omega

/-- Nothing is pending, and every flush is accounted for. -/
structure Settled (runs : Nat) (past : List Machine) (m : Machine) : Prop where
  reliable : m.output.Reliable
  clear : m.output.Clear
  counted : m.output.flushes.size = flushCount past runs

theorem Settled.step {runs : Nat} {past : List Machine} (h : Settled runs past m)
    (hm : m.halted = false) : Settled runs (past ++ [m]) m.step.2 := by
  have hsink := m.step_sink
  refine ⟨?_, ?_, ?_⟩
  · rw [hsink]
    exact h.reliable.serve m.request
  · rw [hsink]
    exact h.reliable.serve_clear h.clear m.request
  · rw [hsink, h.reliable.serve_flushes, h.counted, flushCount_concat hm]

theorem Settled.flush {runs : Nat} {past : List Machine} (h : Settled runs past m) :
    Settled (runs + 1) past m.flush.2 := by
  have hsink : m.flush.2.output = (m.output.serve .flush).2 := by
    rw [flush_eq]
    rfl
  refine ⟨?_, ?_, ?_⟩
  · rw [hsink]
    exact h.reliable.serve .flush
  · rw [hsink]
    exact h.reliable.serve_clear h.clear .flush
  · rw [hsink, h.reliable.serve_flushes, h.counted]
    rfl

theorem performAll_settled {g : Grid} {s : Source} {d : Device}
    (hd : (start g s d).output.Reliable) {fuel : Nat} {calls : List Call} {replies : List Reply}
    (h : (start g s d).performAll fuel calls = some (replies, m)) :
    let past := (start g s d).history fuel calls
    Settled (calls.count .run) past m ∧ ∀ u ∈ past, u.output.Reliable ∧ u.output.Clear := by
  intro past
  have hstart : Settled 0 [] (start g s d) := ⟨hd, ⟨fun hbytes => absurd rfl hbytes, rfl⟩, rfl⟩
  obtain ⟨hnow, hearlier⟩ := performAll_throughout (fun runs past u hm hu => hu.step hm)
    (fun runs past u hu => hu.flush)
    (fun runs past config u hu => ⟨hu.reliable, hu.clear, hu.counted⟩) h hstart
  refine ⟨hnow, ?_⟩
  intro u hu
  obtain ⟨i, hi⟩ := List.mem_iff_getElem?.mp hu
  obtain ⟨runs, hsettled⟩ := hearlier i u hi
  exact ⟨hsettled.reliable, hsettled.clear⟩

/-- What is flushed when, and how often. With an output that never fails nothing is pending after
a call, before a step or when a line is read. On any output a run ends with a flush of what it
holds then. -/
theorem flush_discipline :
    (∀ (g : Grid) (s : Source) (d : Device) (fuel : Nat) (calls : List Call)
        (replies : List Reply) (m : Machine),
      (∀ call held, d.refuse call held = none) →
      (∀ call held, d.refuseFlush call held = none) →
      (start g s d).performAll fuel calls = some (replies, m) →
      let past := (start g s d).history fuel calls
      (past.map steps = List.range m.steps ∧ ∀ u ∈ past, u.halted = false) ∧
      m.output.Clear ∧
      (∀ u ∈ past, u.output.Clear ∧
        (u.cell = '?' ∨ u.cell = '~' →
          u.flush.2.output.Clear ∧ u.step.2.output = u.flush.2.output)) ∧
      m.output.flushes.size =
        past.countP (fun u => u.cell = '.') +
        past.countP (fun u => u.cell = ',' ∧ (CodePoint.toChar? u.stack.top).isSome) +
        past.countP (fun u => u.cell = '?' ∨ u.cell = '~') + calls.count .run) ∧
    ∀ (m : Machine) (fuel : Nat) (result : Except Fault Outcome) (m' : Machine),
      m.run fuel = some (result, m') →
      ∃ n, m.EndsAfter n result m' ∧ m' = (m.after n).flush.2 ∧
        m'.output.bytes = (m.after n).output.bytes ∧
        m'.output.flushes = (m.after n).output.flushes.push m'.output.bytes.size ∧
        m'.output.writes = (m.after n).output.writes := by
  constructor
  · intro g s d fuel calls replies m haccepts hflushes h past
    obtain ⟨hsettled, hearlier⟩ := performAll_settled ⟨haccepts, hflushes⟩ h
    obtain ⟨hcount, hawake⟩ := start_history h
    refine ⟨⟨hcount, hawake⟩, hsettled.clear, ?_, hsettled.counted⟩
    intro u hu
    obtain ⟨hreliable, hclear⟩ := hearlier u hu
    refine ⟨hclear, ?_⟩
    intro hreads
    rw [step_sink, request_of_asks ⟨hawake u hu, hreads⟩, flush_eq]
    exact ⟨hreliable.serve_clear hclear .flush, rfl⟩
  · intro m fuel result m' h
    obtain ⟨n, hends⟩ := run_endsAfter h
    have hsink : m'.output = (m.after n).output.flush.2 := by
      rw [hends.state, flush_eq]
    refine ⟨n, hends, hends.state, ?_, ?_, ?_⟩
    · rw [hsink, Sink.flush_bytes]
    · rw [hsink, Sink.flush_bytes, Sink.flush_flushes]
    · rw [hsink, Sink.flush_writes]

/-- A word that is no character, a rejected line, and a run after the machine has halted; then a
run whose last flush fails. -/
theorem flush_discipline_after_failures :
    let g := Grid.parse "-,~.@".toList
    let s := Source.ofBytes [120, 10, 55, 10]
    let calls := [.step, .step, .run, .run, .configure {}, .run]
    (∃ replies m, (start g s .working).performAll 9 calls = some (replies, m) ∧
      m.output.Clear ∧ m.output.received = [0, 55, 10] ∧ m.output.flushes.size = 7) ∧
    ∃ m', (start g s clogged).run 9 = some (.error (.invalidCodePoint (-1)), m') ∧
      m'.output.flushes.back? = some m'.output.bytes.size := by
  intro g s calls
  obtain ⟨hreliable, hany⟩ := flush_discipline
  constructor
  · have hbytes : ((start g s .working).performAll 9 calls).map
        (fun p => p.2.output.bytes.toList) = some [0, 55, 10] := by
      decide +kernel
    obtain ⟨⟨replies, m⟩, hcalls, hheld⟩ := Option.map_eq_some_iff.mp hbytes
    obtain ⟨-, hclear, -, hcount⟩ :=
      hreliable g s .working 9 calls replies m (fun _ _ => rfl) (fun _ _ => rfl) hcalls
    refine ⟨replies, m, hcalls, hclear, hclear.received.trans hheld, ?_⟩
    rw [hcount]
    decide +kernel
  · have hanswer : ((start g s clogged).run 9).map Prod.fst =
        some (.error (.invalidCodePoint (-1))) := by
      cbv
    obtain ⟨⟨result, m'⟩, hrun, rfl⟩ := Option.map_eq_some_iff.mp hanswer
    obtain ⟨n, -, -, -, hflushes, -⟩ := hany (start g s clogged) 9 _ m' hrun
    refine ⟨m', hrun, ?_⟩
    rw [hflushes, Array.back?_push]

end Machine

end Gridwalk
