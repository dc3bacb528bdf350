import Gridwalk.Proofs.CommandOutcome
import Gridwalk.Proofs.Requests
import Gridwalk.Proofs.StepLimits

/-!
# Output that cannot be delivered

A device may take bytes and never let go of them, so that every flush fails once it holds any.
Up to the first byte a machine does on it what it does on a working device. The step that
writes this byte fails and ends the run. A listing is printed past the machine, and there the
same failure gets a status of its own.
-/
namespace Gridwalk

/-- Every flush of at least one byte fails. -/
structure Device.Stuck (d : Device) : Prop where
  accepts : ∀ call held, d.refuse call held = none
  idle : ∀ call, d.refuseFlush call 0 = none
  fails : ∀ call held, 0 < held → ∃ cause, d.refuseFlush call held = some cause

namespace Sink

variable {s : Sink} (hd : s.device.Stuck)

include hd

theorem flush_idle (hs : s.bytes = #[]) : s.flush.1 = none := by
  simp [flush, hs, hd.idle]

end Sink

namespace Machine

/-- The same machine twice, on a device that is stuck but holds nothing yet and on one that
works. -/
structure Muted (a b : Machine) : Prop where
  stuck : a.output.device.Stuck
  empty : a.output.bytes = #[]
  same : ∃ u, u.device = .working ∧ b = a.into u

variable {a b : Machine}

theorem written_succ_left (n : Nat) (m : Machine) :
    m.written (n + 1) = m.piece ++ m.step.2.written n := by
  unfold written
  rw [List.range_succ_eq_map, List.flatMap_cons, List.flatMap_map]
  rfl

theorem Muted.flush_answers (h : Muted a b) :
    a.output.flush.1 = none ∧ b.output.flush.1 = none := by
  obtain ⟨u, hu, rfl⟩ := h.same
  exact ⟨Sink.flush_idle h.stuck h.empty, Sink.flush_working hu⟩

theorem Muted.flush (h : Muted a b) : Muted a.flush.2 b.flush.2 := by
  obtain ⟨u, hu, rfl⟩ := h.same
  rw [flush_eq, flush_eq]
  constructor
  · change a.output.flush.2.device.Stuck
    rw [Sink.flush_device]
    exact h.stuck
  · exact (Sink.flush_bytes _).trans h.empty
  · exact ⟨u.flush.2, (Sink.flush_device u).trans hu, rfl⟩

/-- Without a byte to write it does not matter where it would go. -/
theorem Muted.step (h : Muted a b) (hp : b.piece = []) : SameAnswer Muted a.step b.step := by
  obtain ⟨u, hu, rfl⟩ := h.same
  change a.piece = [] at hp
  have hserved : (a.output.serve a.request).1 = none := by
    by_cases hasks : a.Asks
    · rw [request_of_asks hasks]
      exact Sink.flush_idle h.stuck h.empty
    · rw [request_of_silent hasks hp]
      rfl
  rw [step_into ((Sink.serve_working hu _).trans hserved.symm)]
  refine ⟨rfl, ?_, ?_, _, (Sink.serve_device _ u).trans hu, rfl⟩
  · rw [step_device]
    exact h.stuck
  · apply Array.toList_inj.mp
    rw [step_bytes h.stuck.accepts, hp, List.append_nil, h.empty]

theorem Muted.shared (h : Muted a b) :
    a.halted = b.halted ∧ a.steps = b.steps ∧ a.config = b.config ∧ a.journal = b.journal := by
  obtain ⟨u, -, rfl⟩ := h.same
  exact ⟨rfl, rfl, rfl, rfl⟩

theorem Muted.cruise {n : Nat} (h : Muted a b)
    (hq : ∀ k ≤ n, (∀ j < k, ¬ b.Over j) → b.written k = []) :
    SameAnswer Muted (a.cruise n) (b.cruise n) := by
  induction n generalizing a b with
  | zero => exact ⟨by simp only [Machine.cruise, h.shared.1], h⟩
  | succ n ih =>
    cases hm : b.halted with
    | true =>
      rw [cruise_of_halted hm, cruise_of_halted (h.shared.1.trans hm)]
      exact ⟨rfl, h⟩
    | false =>
      have hpiece : b.piece = [] := by
        have hfirst := hq 1 (Nat.succ_pos n) ?_
        · rw [written_succ_left] at hfirst
          exact (List.append_eq_nil_iff.mp hfirst).1
        · intro j hj
          rw [Nat.lt_one_iff.mp hj]
          exact not_over_zero hm
      obtain ⟨hanswer, hafter⟩ := h.step hpiece
      rw [cruise_succ, cruise_succ, hanswer]
      rcases hstep : b.step.1 with f | (_ | _)
      · exact ⟨rfl, hafter⟩
      · apply ih hafter
        intro k hk hover
        have hnext := hq (k + 1) (Nat.succ_le_succ hk) ?_
        · rw [written_succ_left] at hnext
          exact (List.append_eq_nil_iff.mp hnext).2
        · rintro (_ | j) hj
          · exact not_over_zero hm
          · rw [over_succ_iff hstep]
            exact hover j (Nat.lt_of_succ_lt_succ hj)
      · exact ⟨rfl, hafter⟩

theorem Muted.settle (h : Muted a b) (stop : Stop) :
    SameAnswer Muted (settle stop a) (settle stop b) := by
  obtain ⟨ha, hb⟩ := h.flush_answers
  rw [settle_of_flushed stop ha, settle_of_flushed stop hb, h.shared.2.1]
  exact ⟨rfl, h.flush⟩

theorem Muted.allowance (h : Muted a b) (fuel : Nat) : a.allowance fuel = b.allowance fuel := by
  obtain ⟨-, hsteps, hconfig, -⟩ := h.shared
  rw [Machine.allowance, Machine.allowance, hsteps, hconfig]

theorem Muted.run (h : Muted a b) (hq : ∀ k, (∀ j < k, ¬ b.Ended j) → b.written k = [])
    {fuel : Nat} {result : Except Fault Outcome} {a' : Machine}
    (hr : a.run fuel = some (result, a')) :
    ∃ b', b.run fuel = some (result, b') ∧ Muted a' b' := by
  obtain ⟨hspent, hsettle⟩ := run_eq_some_iff.mp hr
  have hcruise : SameAnswer Muted (a.cruise (b.allowance fuel)) (b.cruise (b.allowance fuel)) := by
    apply h.cruise
    intro k hk hover
    apply hq
    intro j hj hended
    exact hover j hj (over_of_ended (Nat.lt_of_lt_of_le hj hk) hended)
  obtain ⟨-, -, hconfig, -⟩ := h.shared
  rw [h.allowance fuel] at hspent hsettle
  obtain ⟨stop, u, v, hu, hv, hafter⟩ := hcruise.split
  rw [hu] at hspent hsettle
  obtain ⟨answer, u', v', hu', hv', hlast⟩ := (hafter.settle stop).split
  cases hu'.symm.trans hsettle
  refine ⟨v', run_eq_some_iff.mpr ⟨?_, ?_⟩, hlast⟩
  · rw [← hconfig, hv]
    exact hspent
  · rw [hv]
    exact hv'

end Machine

namespace Command

section Stuck

variable {grid : Grid} {d : Device} (hd : d.Stuck)

include hd

end Stuck

section Run

variable {o : Options} {a a' b : Machine} (h : a.Muted b) {fuel : Nat}
  {result : Except Fault Outcome} (hrun : a.run fuel = some (result, a'))

include h hrun

end Run

end Command

end Gridwalk
