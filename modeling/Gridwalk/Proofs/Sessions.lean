import Gridwalk.Proofs.Effects
import Gridwalk.Session

/-!
# Counted steps and sessions

A run is a number of single steps and one flush, and a session is made of steps, runs and
changes of the configuration. So whatever steps, flushes and such changes preserve holds
throughout a session.
-/
namespace Gridwalk.Machine

def after : Nat → Machine → Machine
  | 0, m => m
  | n + 1, m => after n m.step.2

def answers : Nat → Machine → List (Except Fault Status)
  | 0, _ => []
  | n + 1, m => m.step.1 :: answers n m.step.2

/-- Some finished sequence of calls leads from `a` to `b`. -/
def Reachable (a b : Machine) : Prop :=
  ∃ fuel calls replies, a.performAll fuel calls = some (replies, b)

variable {m : Machine}

theorem after_add (k n : Nat) (m : Machine) : m.after (k + n) = (m.after k).after n := by
  induction k generalizing m with
  | zero => rw [Nat.zero_add]; rfl
  | succ k ih => rw [Nat.succ_add]; exact ih m.step.2

theorem after_succ (n : Nat) (m : Machine) : m.after (n + 1) = (m.after n).step.2 :=
  after_add n 1 m

theorem after_grid (n : Nat) (m : Machine) : (m.after n).grid = m.grid := by
  induction n generalizing m with
  | zero => rfl
  | succ n ih => exact (ih m.step.2).trans m.step_grid

theorem cruise_of_halted (h : m.halted = true) (n : Nat) : m.cruise n = (.halted, m) := by
  cases n with
  | zero => simp [cruise, h]
  | succ n => simp [cruise, step_of_halted h]

theorem cruise_zero (h : m.halted = false) : m.cruise 0 = (.spent, m) := by
  simp [cruise, h]

theorem cruise_succ (n : Nat) (m : Machine) :
    m.cruise (n + 1) = match m.step.1 with
      | .error f => (.failed f, m.step.2)
      | .ok .halted => (.halted, m.step.2)
      | .ok .running => m.step.2.cruise n := by
  rw [cruise]
  rcases m.step with ⟨f | (_ | _), m'⟩ <;> rfl

/-- What is left of an allowance is used after it was interrupted. -/
theorem cruise_add_of_spent {k : Nat} {m' : Machine} (h : m.cruise k = (.spent, m')) (n : Nat) :
    m.cruise (k + n) = m'.cruise n := by
  induction k generalizing m with
  | zero =>
    have hm : m = m' := congrArg Prod.snd h
    rw [Nat.zero_add, hm]
  | succ k ih =>
    rw [Nat.succ_add, cruise_succ]
    rw [cruise_succ] at h
    rcases hu : m.step.1 with f | (_ | _) <;> simp only [hu] at h ⊢
    · simp at h
    · exact ih h
    · simp at h

/-- A larger allowance changes nothing about a series of steps that came to its own end. -/
theorem cruise_add_of_stopped {k : Nat} {stop : Stop} {m' : Machine}
    (h : m.cruise k = (stop, m')) (hs : stop ≠ .spent) (n : Nat) :
    m.cruise (k + n) = (stop, m') := by
  induction k generalizing m with
  | zero =>
    cases hm : m.halted with
    | true => rw [cruise_of_halted hm] at h ⊢; exact h
    | false =>
      simp only [cruise, hm, Bool.false_eq_true, ↓reduceIte, Prod.mk.injEq] at h
      exact absurd h.1.symm hs
  | succ k ih =>
    rw [Nat.succ_add, cruise_succ]
    rw [cruise_succ] at h
    rcases hu : m.step.1 with f | (_ | _) <;> simp only [hu] at h ⊢
    · exact h
    · exact ih h
    · exact h

theorem awake_of_spent {n : Nat} {m' : Machine} (h : m.cruise n = (.spent, m')) :
    m.halted = false := by
  cases hm : m.halted with
  | false => rfl
  | true => rw [cruise_of_halted hm] at h; simp at h

theorem cruise_succ_eq_spent {n : Nat} {m' : Machine} (h : m.cruise (n + 1) = (.spent, m')) :
    m.step.1 = .ok .running ∧ m.step.2.cruise n = (.spent, m') := by
  rw [cruise_succ] at h
  rcases hu : m.step.1 with f | (_ | _) <;> simp only [hu] at h
  · simp at h
  · exact ⟨rfl, h⟩
  · simp at h

theorem cruise_steps {n : Nat} {m' : Machine} (h : m.cruise n = (.spent, m')) :
    m'.steps = m.steps + n := by
  induction n generalizing m with
  | zero => rw [← show m = m' from congrArg Prod.snd h]; rfl
  | succ n ih =>
    obtain ⟨-, hrest⟩ := cruise_succ_eq_spent h
    rw [ih hrest, step_steps (awake_of_spent h)]
    omega

/-- With nothing left to do but to go on, a shorter series gets as far as it is allowed. -/
theorem cruise_of_spent {n : Nat} {m' : Machine} (h : m.cruise n = (.spent, m')) :
    m' = m.after n ∧ ∀ j ≤ n, m.cruise j = (.spent, m.after j) := by
  induction n generalizing m with
  | zero =>
    have hnone := cruise_zero (awake_of_spent h)
    cases hnone.symm.trans h
    refine ⟨rfl, fun j hj => ?_⟩
    rw [Nat.le_zero.mp hj]
    exact hnone
  | succ n ih =>
    obtain ⟨hanswer, hrest⟩ := cruise_succ_eq_spent h
    obtain ⟨hend, hearlier⟩ := ih hrest
    refine ⟨hend, fun j hj => ?_⟩
    cases j with
    | zero => exact cruise_zero (awake_of_spent h)
    | succ j =>
      rw [cruise_succ, hanswer]
      exact hearlier j (Nat.le_of_succ_le_succ hj)

theorem cruise_of_running {n : Nat} (h : m.answers n = List.replicate n (.ok .running))
    (hm : (m.after n).halted = false) : m.cruise n = (.spent, m.after n) := by
  induction n generalizing m with
  | zero =>
    change m.halted = false at hm
    simp [cruise, hm, after]
  | succ n ih =>
    change m.step.1 :: m.step.2.answers n = _ at h
    rw [List.replicate_succ, List.cons.injEq] at h
    rw [cruise_succ, h.1]
    exact ih h.2 hm

theorem cruise_one (h : m.step.1 = .ok .running) (hm : m.step.2.halted = false) :
    m.cruise 1 = (.spent, m.step.2) :=
  cruise_of_running (n := 1) (by simp [answers, h]) hm

theorem halted_of_step (h : m.step.1 = .ok .halted) : m.step.2.halted = true := by
  have ht := m.step_taken
  rw [h] at ht
  generalize m.step.2 = m' at ht
  cases ht with
  | idle hm => exact hm
  | halt => rfl

theorem settle_state (stop : Stop) (m : Machine) : (settle stop m).2 = m.flush.2 := by
  cases stop <;> simp only [settle, finish] <;> rcases m.flush with ⟨_ | _, _⟩ <;> rfl

theorem settle_of_flushed (stop : Stop) (h : m.output.flush.1 = none) :
    settle stop m = (match stop with
      | .halted => .ok (.halted m.steps)
      | .failed f => .error f
      | .spent => .ok (.stepLimit m.steps), m.flush.2) := by
  cases stop <;> simp [settle, finish, flush_eq, h, Fault.ofOutput]

/-- How many steps a run may take; without a limit, as many as there is fuel for. -/
def allowance (fuel : Nat) (m : Machine) : Nat :=
  match m.config.stepLimit with
  | some limit => limit - m.steps
  | none => fuel

/-- A run is a series of steps and the flush that settles it. Only a run without a limit may
fail to come to its end. -/
theorem run_eq_some_iff {fuel : Nat} {p : Except Fault Outcome × Machine} :
    m.run fuel = some p ↔
      (m.config.stepLimit = none → (m.cruise (m.allowance fuel)).1 ≠ .spent) ∧
      settle (m.cruise (m.allowance fuel)).1 (m.cruise (m.allowance fuel)).2 = p := by
  unfold run allowance
  cases m.config.stepLimit with
  | some limit => simp [runWithin]
  | none =>
    rcases hc : m.cruise fuel with ⟨_ | f | _, u⟩ <;> simp [runFreely, hc]

section Invariance

variable {P : Machine → Prop} (hstep : ∀ m, P m → P m.step.2)

include hstep

theorem after_preserves (n : Nat) (h : P m) : P (m.after n) := by
  induction n generalizing m with
  | zero => exact h
  | succ n ih => exact ih (hstep m h)

theorem cruise_preserves (n : Nat) (h : P m) : P (m.cruise n).2 := by
  induction n generalizing m with
  | zero => exact h
  | succ n ih =>
    have hs := hstep m h
    rw [cruise_succ]
    rcases m.step.1 with f | (_ | _)
    · exact hs
    · exact ih hs
    · exact hs

variable (hflush : ∀ m, P m → P m.flush.2)

include hflush

theorem run_preserves {fuel : Nat} {result : Except Fault Outcome} {m' : Machine}
    (h : P m) (hr : m.run fuel = some (result, m')) : P m' := by
  obtain ⟨-, hsettle⟩ := run_eq_some_iff.mp hr
  rw [← show _ = m' from congrArg Prod.snd hsettle, settle_state]
  exact hflush _ (cruise_preserves hstep _ h)

/-- What single steps, flushes and new configurations preserve holds after every session. -/
theorem Reachable.invariant (hconfigure : ∀ config m, P m → P (m.configure config))
    {a b : Machine} (h : Reachable a b) (ha : P a) : P b := by
  obtain ⟨fuel, calls, replies, h⟩ := h
  induction calls generalizing a replies with
  | nil => cases h; exact ha
  | cons call rest ih =>
    simp only [performAll, bind, Option.bind_eq_some_iff] at h
    obtain ⟨⟨reply, u⟩, hu, ⟨replies', v⟩, hv, h⟩ := h
    cases h
    refine ih ?_ _ hv
    cases call with
    | step => cases hu; exact hstep a ha
    | configure config => cases hu; exact hconfigure config a ha
    | run =>
      obtain ⟨⟨result, w⟩, hw, heq⟩ := Option.map_eq_some_iff.mp hu
      cases heq
      exact run_preserves hstep hflush ha hw

end Invariance

theorem after_config (n : Nat) (m : Machine) : (m.after n).config = m.config :=
  after_preserves (P := fun u => u.config = m.config) (fun u hu => u.step_config.trans hu) n rfl

theorem run_config {fuel : Nat} {result : Except Fault Outcome} {m' : Machine}
    (h : m.run fuel = some (result, m')) : m'.config = m.config :=
  run_preserves (P := fun u => u.config = m.config) (fun u hu => u.step_config.trans hu)
    (fun u hu => u.flush_heading.config.trans hu) rfl h

end Gridwalk.Machine
