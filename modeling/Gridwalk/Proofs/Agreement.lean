import Gridwalk.Proofs.Sessions

/-!
# Machines that agree

Two machines at the same place whose stacks and sinks cannot be told apart by any operation
answer alike as long as their cells decode alike, and still cannot be told apart afterwards.
What counts as indistinguishable is left open: any relation that the operations respect.
-/
namespace Gridwalk

/-- The same answer, and related states after it. -/
def SameAnswer (R : σ → σ → Prop) (p q : α × σ) : Prop := p.1 = q.1 ∧ R p.2 q.2

theorem SameAnswer.split {R : σ → σ → Prop} {p q : α × σ} (h : SameAnswer R p q) :
    ∃ answer s t, p = (answer, s) ∧ q = (answer, t) ∧ R s t :=
  ⟨p.1, p.2, q.2, rfl, Prod.ext h.1.symm rfl, h.2⟩

/-- A relation that every operation on stacks respects. -/
structure Stack.Congruence (S : Stack → Stack → Prop) : Prop where
  top : ∀ {s t}, S s t → s.top = t.top
  drop : ∀ {s t}, S s t → S s.drop t.drop
  push : ∀ {s t} v, S s t → S (s.push v) (t.push v)
  act : ∀ {s t} (i : Instruction) d, S s t →
    (i.act d s).1 = (i.act d t).1 ∧ S (i.act d s).2 (i.act d t).2

structure Sink.Congruence (O : Sink → Sink → Prop) : Prop where
  flush : ∀ {s t}, O s t → SameAnswer O s.flush t.flush
  write : ∀ {s t} piece, O s t → SameAnswer O (s.write piece) (t.write piece)

theorem Stack.congruence_eq : Stack.Congruence (· = ·) where
  top := by rintro s _ rfl; rfl
  drop := by rintro s _ rfl; rfl
  push := by rintro s _ v rfl; rfl
  act := by rintro s _ i d rfl; exact ⟨rfl, rfl⟩

theorem Sink.congruence_eq : Sink.Congruence (· = ·) where
  flush := by rintro s _ rfl; exact ⟨rfl, rfl⟩
  write := by rintro s _ piece rfl; exact ⟨rfl, rfl⟩

theorem Sink.Congruence.publish {O : Sink → Sink → Prop} (hO : Sink.Congruence O) {s t : Sink}
    (piece : List UInt8) (h : O s t) : SameAnswer O (s.publish piece) (t.publish piece) := by
  obtain ⟨failure, s', t', hs, ht, hafter⟩ := (hO.write piece h).split
  rw [Sink.publish, Sink.publish, hs, ht]
  cases failure with
  | none => exact hO.flush hafter
  | some cause => exact ⟨rfl, hafter⟩

namespace Machine

/-- At the same place, with stacks and sinks related. Grid, configuration and journal are
left out. -/
structure Agree (S : Stack → Stack → Prop) (O : Sink → Sink → Prop) (a b : Machine) : Prop where
  x : a.x = b.x
  y : a.y = b.y
  direction : a.direction = b.direction
  stack : S a.stack b.stack
  steps : a.steps = b.steps
  halted : a.halted = b.halted
  input : a.input = b.input
  output : O a.output b.output

variable {S : Stack → Stack → Prop} {O : Sink → Sink → Prop} {a b : Machine}

theorem Agree.with_output (h : Agree S O a b) {s t : Sink} (ho : O s t) :
    Agree S O { a with output := s } { b with output := t } :=
  ⟨h.x, h.y, h.direction, h.stack, h.steps, h.halted, h.input, ho⟩

theorem Agree.with_stack (h : Agree S O a b) {s t : Stack} (hs : S s t) :
    Agree S O { a with stack := s } { b with stack := t } :=
  ⟨h.x, h.y, h.direction, hs, h.steps, h.halted, h.input, h.output⟩

theorem flush_agree (hO : Sink.Congruence O) (h : Agree S O a b) :
    SameAnswer (Agree S O) a.flush b.flush := by
  obtain ⟨hanswer, hsink⟩ := hO.flush h.output
  rw [flush_eq, flush_eq, hanswer]
  exact ⟨rfl, h.with_output hsink⟩

theorem publish_agree (hO : Sink.Congruence O) (h : Agree S O a b) (piece : List UInt8) :
    SameAnswer (Agree S O) (a.publish piece) (b.publish piece) := by
  obtain ⟨hanswer, hsink⟩ := hO.publish piece h.output
  rw [publish_eq, publish_eq, hanswer]
  exact ⟨rfl, h.with_output hsink⟩

theorem readLine_agree (hO : Sink.Congruence O) (h : Agree S O a b) (hcell : a.cell = b.cell) :
    SameAnswer (Agree S O) a.readLine b.readLine := by
  obtain ⟨hanswer, hsink⟩ := hO.flush h.output
  cases hf : b.output.flush.1 with
  | some cause =>
    rw [readLine_of_flush_failed hf, readLine_of_flush_failed (hanswer.trans hf)]
    exact ⟨rfl, h.with_output hsink⟩
  | none =>
    rw [readLine_of_flushed hf, readLine_of_flushed (hanswer.trans hf), h.input, hcell]
    exact ⟨rfl, h.x, h.y, h.direction, h.stack, h.steps, h.halted, rfl, hsink⟩

theorem intake_agree (hS : Stack.Congruence S) (hO : Sink.Congruence O) (h : Agree S O a b)
    (hcell : a.cell = b.cell) (accept : List Char → Except Fault Int64) :
    SameAnswer (Agree S O) (a.intake accept) (b.intake accept) := by
  obtain ⟨answer, a', b', ha, hb, hafter⟩ := (readLine_agree hO h hcell).split
  rw [intake, intake, ha, hb]
  cases answer with
  | error f => exact ⟨rfl, hafter⟩
  | ok line =>
    dsimp only
    cases accept line with
    | error f => exact ⟨rfl, hafter⟩
    | ok v => exact ⟨rfl, hafter.with_stack (hS.push v hafter.stack)⟩

theorem emit_agree (hS : Stack.Congruence S) (hO : Sink.Congruence O) (h : Agree S O a b)
    (render : Int64 → Except Fault (List UInt8)) :
    SameAnswer (Agree S O) (a.emit render) (b.emit render) := by
  have hdrop := h.with_stack (hS.drop h.stack)
  rw [emit, emit, hS.top h.stack]
  cases render b.stack.top with
  | error f => exact ⟨rfl, hdrop⟩
  | ok piece => exact publish_agree hO hdrop piece

/-- The cells have to be equal only where a failing read would name them. -/
theorem execute_agree (hS : Stack.Congruence S) (hO : Sink.Congruence O) (h : Agree S O a b)
    (i : Instruction) (hcell : i = .readChar ∨ i = .readInt → a.cell = b.cell) :
    SameAnswer (Agree S O) (a.execute i) (b.execute i) := by
  obtain hq | ⟨accept, hread, hi⟩ | ⟨render, hi⟩ := execute_cases i
  · rw [execute_quiet a hq, execute_quiet b hq, h.direction]
    obtain ⟨hdirection, hstack⟩ := hS.act i b.direction h.stack
    exact ⟨rfl, h.x, h.y, hdirection, hstack, h.steps, h.halted, h.input, h.output⟩
  · rw [hi, hi]
    exact intake_agree hS hO h (hcell hread) accept
  · rw [hi, hi]
    exact emit_agree hS hO h render

theorem Agree.count (h : Agree S O a b) : Agree S O a.count b.count :=
  ⟨h.x, h.y, h.direction, h.stack, congrArg (· + 1) h.steps, h.halted, h.input, h.output⟩

theorem Agree.advance (h : Agree S O a b) : Agree S O a.advance b.advance := by
  refine ⟨?_, ?_, h.direction, h.stack, h.steps, h.halted, h.input, h.output⟩
  · simp only [Machine.advance, h.x, h.direction]
  · simp only [Machine.advance, h.y, h.direction]

theorem step_agree (hS : Stack.Congruence S) (hO : Sink.Congruence O) (h : Agree S O a b)
    (hcode : a.halted = false → Instruction.decode a.cell = Instruction.decode b.cell) :
    SameAnswer (Agree S O) a.step b.step := by
  cases ha : a.halted with
  | true =>
    rw [step_of_halted ha, step_of_halted (h.halted ▸ ha)]
    exact ⟨rfl, h⟩
  | false =>
    have hb : b.halted = false := h.halted ▸ ha
    have hdecode := hcode ha
    have hexecute := execute_agree hS hO h.count (Instruction.decode a.cell)
      fun hread => Instruction.cell_of_decode_read hread hdecode
    by_cases hi : Instruction.decode a.cell = .halt
    · rw [step_of_halt ha hi, step_of_halt hb (hdecode ▸ hi)]
      exact ⟨rfl, h.x, h.y, h.direction, h.stack, h.count.steps, rfl, h.input, h.output⟩
    · obtain ⟨answer, a', b', hea, heb, hafter⟩ := hexecute.split
      have hi' : Instruction.decode b.cell ≠ .halt := hdecode ▸ hi
      rw [hdecode] at heb
      cases answer with
      | error f =>
        rw [step_of_fault ha hi hea, step_of_fault hb hi' heb]
        exact ⟨rfl, hafter⟩
      | ok u =>
        rw [step_of_done ha hi hea, step_of_done hb hi' heb]
        exact ⟨rfl, hafter.advance⟩

structure Twin (S : Stack → Stack → Prop) (O : Sink → Sink → Prop) (a b : Machine) : Prop
    extends Agree S O a b where
  grid : a.grid = b.grid

theorem Twin.cell (h : Twin S O a b) : a.cell = b.cell := by
  rw [Machine.cell, Machine.cell, h.grid, h.x, h.y]

theorem step_twin (hS : Stack.Congruence S) (hO : Sink.Congruence O) (h : Twin S O a b) :
    SameAnswer (Twin S O) a.step b.step := by
  obtain ⟨hanswer, hafter⟩ := step_agree hS hO h.toAgree fun _ => by rw [h.cell]
  refine ⟨hanswer, hafter, ?_⟩
  rw [step_grid, step_grid, h.grid]

theorem flush_twin (hO : Sink.Congruence O) (h : Twin S O a b) :
    SameAnswer (Twin S O) a.flush b.flush := by
  obtain ⟨hanswer, hafter⟩ := flush_agree hO h.toAgree
  refine ⟨hanswer, hafter, ?_⟩
  rw [a.flush_heading.grid, b.flush_heading.grid, h.grid]

theorem cruise_twin (hS : Stack.Congruence S) (hO : Sink.Congruence O) (n : Nat)
    (h : Twin S O a b) : SameAnswer (Twin S O) (a.cruise n) (b.cruise n) := by
  induction n generalizing a b with
  | zero => exact ⟨by simp only [cruise, h.halted], h⟩
  | succ n ih =>
    obtain ⟨hanswer, hafter⟩ := step_twin hS hO h
    rw [cruise_succ, cruise_succ, hanswer]
    rcases b.step.1 with f | (_ | _)
    · exact ⟨rfl, hafter⟩
    · exact ih hafter
    · exact ⟨rfl, hafter⟩

theorem settle_twin (hO : Sink.Congruence O) (h : Twin S O a b) (stop : Stop) :
    SameAnswer (Twin S O) (settle stop a) (settle stop b) := by
  obtain ⟨answer, a', b', ha, hb, hafter⟩ := (flush_twin hO h).split
  cases stop <;> cases answer <;> simp only [settle, finish, ha, hb, h.steps] <;>
    exact ⟨rfl, hafter⟩

theorem runWithin_twin (hS : Stack.Congruence S) (hO : Sink.Congruence O) (h : Twin S O a b)
    (limit : Nat) : SameAnswer (Twin S O) (a.runWithin limit) (b.runWithin limit) := by
  obtain ⟨stop, a', b', ha, hb, hafter⟩ := (cruise_twin hS hO (limit - a.steps) h).split
  rw [runWithin, runWithin, ← h.steps, ha, hb]
  exact settle_twin hO hafter stop

theorem runFreely_twin (hS : Stack.Congruence S) (hO : Sink.Congruence O) (h : Twin S O a b)
    (fuel : Nat) :
    Option.Rel (SameAnswer (Twin S O)) (a.runFreely fuel) (b.runFreely fuel) := by
  obtain ⟨stop, a', b', ha, hb, hafter⟩ := (cruise_twin hS hO fuel h).split
  rw [runFreely, runFreely, ha, hb]
  cases stop with
  | spent => exact .none
  | halted => exact .some (settle_twin hO hafter .halted)
  | failed f => exact .some (settle_twin hO hafter (.failed f))

/-- Of the configuration a run looks at nothing but the step limit. -/
theorem run_twin (hS : Stack.Congruence S) (hO : Sink.Congruence O) (h : Twin S O a b)
    (hlimit : a.config.stepLimit = b.config.stepLimit) (fuel : Nat) :
    Option.Rel (SameAnswer (Twin S O)) (a.run fuel) (b.run fuel) := by
  rw [run, run, hlimit]
  cases b.config.stepLimit with
  | some limit => exact .some (runWithin_twin hS hO h limit)
  | none => exact runFreely_twin hS hO h fuel

/-- Agreeing machines with one grid and one configuration. -/
structure Lockstep (S : Stack → Stack → Prop) (O : Sink → Sink → Prop) (a b : Machine) : Prop
    extends Twin S O a b where
  config : a.config = b.config

theorem step_lockstep (hS : Stack.Congruence S) (hO : Sink.Congruence O)
    (h : Lockstep S O a b) : SameAnswer (Lockstep S O) a.step b.step := by
  obtain ⟨hanswer, hafter⟩ := step_twin hS hO h.toTwin
  refine ⟨hanswer, hafter, ?_⟩
  rw [step_config, step_config, h.config]

theorem run_lockstep (hS : Stack.Congruence S) (hO : Sink.Congruence O) (h : Lockstep S O a b)
    (fuel : Nat) : Option.Rel (SameAnswer (Lockstep S O)) (a.run fuel) (b.run fuel) := by
  have htwin := run_twin hS hO h.toTwin (congrArg Config.stepLimit h.config) fuel
  generalize ha : a.run fuel = p, hb : b.run fuel = q at htwin
  cases htwin with
  | none => exact .none
  | some hafter =>
    refine .some ⟨hafter.1, hafter.2, ?_⟩
    rw [run_config ha, run_config hb, h.config]

theorem perform_lockstep (hS : Stack.Congruence S) (hO : Sink.Congruence O)
    (h : Lockstep S O a b) (fuel : Nat) (call : Call) :
    Option.Rel (SameAnswer (Lockstep S O)) (a.perform fuel call) (b.perform fuel call) := by
  cases call with
  | step =>
    obtain ⟨hanswer, hafter⟩ := step_lockstep hS hO h
    exact .some ⟨congrArg Reply.stepped hanswer, hafter⟩
  | configure config =>
    exact .some ⟨rfl, ⟨⟨h.x, h.y, h.direction, h.stack, h.steps, h.halted, h.input, h.output⟩,
      h.grid⟩, rfl⟩
  | run =>
    have hrun := run_lockstep hS hO h fuel
    unfold perform
    generalize a.run fuel = p, b.run fuel = q at hrun
    cases hrun with
    | none => exact .none
    | some hafter => exact .some ⟨congrArg Reply.ran hafter.1, hafter.2⟩

theorem performAll_lockstep (hS : Stack.Congruence S) (hO : Sink.Congruence O)
    (h : Lockstep S O a b) (fuel : Nat) (calls : List Call) :
    Option.Rel (SameAnswer (Lockstep S O)) (a.performAll fuel calls) (b.performAll fuel calls) := by
  -- What one call leaves on both sides is where the remaining calls start.
  induction calls generalizing a b with
  | nil => exact .some ⟨rfl, h⟩
  | cons call rest ih =>
    have hcall := perform_lockstep hS hO h fuel call
    unfold performAll
    generalize a.perform fuel call = p, b.perform fuel call = q at hcall
    cases hcall with
    | none => exact .none
    | @some u v hfirst =>
      have hrest := ih hfirst.2
      simp only [bind, Option.bind_some]
      generalize u.2.performAll fuel rest = p, v.2.performAll fuel rest = q at hrest
      cases hrest with
      | none => exact .none
      | some hafter => exact .some ⟨by rw [hfirst.1, hafter.1], hafter.2⟩

end Machine

end Gridwalk
