import Mathlib
import Gridwalk.Proofs.Sessions

/-!
# Where a run ends

A run stops after the first step that halts the machine, that fails or that uses up the step
limit. These may coincide, and then a fault comes before everything else, a failing flush
before the outcome, and halting before the limit.
-/
namespace Gridwalk.Machine

/-- The `k`-th step, counted from one, failed. -/
def FailedAt (m : Machine) : Nat → Fault → Prop
  | 0, _ => False
  | k + 1, f => (m.after k).step.1 = .error f

/-- After `k` steps the machine has halted or has just failed. -/
def Over (m : Machine) (k : Nat) : Prop := (m.after k).halted = true ∨ ∃ f, m.FailedAt k f

def LimitReached (m : Machine) (k : Nat) : Prop :=
  ∃ limit, m.config.stepLimit = some limit ∧ limit ≤ m.steps + k

def Ended (m : Machine) (k : Nat) : Prop := m.Over k ∨ m.LimitReached k

variable {m : Machine}

theorem FailedAt.unique {k : Nat} {f g : Fault} (h : m.FailedAt k f) (h' : m.FailedAt k g) :
    f = g := by
  cases k with
  | zero => exact h.elim
  | succ k => exact Except.error.inj (h.symm.trans h')

theorem awake_of_error {f : Fault} (h : m.step.1 = .error f) :
    m.halted = false ∧ m.step.2.halted = false := by
  obtain ⟨hm, he⟩ := step_failed h
  exact ⟨hm, (execute_setting he).halted.trans hm⟩

theorem FailedAt.awake {k : Nat} {f : Fault} (h : m.FailedAt k f) :
    (m.after k).halted = false := by
  cases k with
  | zero => exact h.elim
  | succ k =>
    rw [after_succ]
    exact (awake_of_error h).2

theorem not_over_zero (h : m.halted = false) : ¬ m.Over 0 := by
  rintro (hm | ⟨f, hf⟩)
  · exact absurd (hm.symm.trans h) (by simp)
  · exact hf

/-- The first step is no more than counted as long as it neither halts nor fails. -/
theorem over_succ_iff (h : m.step.1 = .ok .running) (k : Nat) :
    m.Over (k + 1) ↔ m.step.2.Over k := by
  have hfailed : ∀ f, m.FailedAt (k + 1) f ↔ m.step.2.FailedAt k f := by
    intro f
    cases k with
    | zero =>
      constructor
      · intro hf
        exact absurd (h.symm.trans hf) (by simp)
      · intro hf
        exact hf.elim
    | succ k => exact Iff.rfl
  unfold Over
  simp only [hfailed]
  exact Iff.rfl

/-- What has happened after `k` steps when a series of steps stopped there. -/
def StoppedBy (m : Machine) (k : Nat) : Stop → Prop
  | .halted => (m.after k).halted = true
  | .failed f => m.FailedAt k f
  | .spent => ¬ m.Over k

/-- A series of steps stops at the first step after which the machine is over, or when all
the steps allowed have been taken. -/
theorem cruise_stops (n : Nat) (m : Machine) :
    ∃ k, IsLeast {k | m.Over k ∨ n ≤ k} k ∧ (m.cruise n).2 = m.after k ∧
      m.StoppedBy k (m.cruise n).1 := by
  induction n generalizing m with
  | zero =>
    refine ⟨0, ⟨.inr (Nat.le_refl 0), fun k _ => Nat.zero_le k⟩, rfl, ?_⟩
    cases hm : m.halted with
    | true =>
      rw [cruise_of_halted hm]
      exact hm
    | false =>
      have hstop : (m.cruise 0).1 = .spent := by simp [cruise, hm]
      rw [hstop]
      exact not_over_zero hm
  | succ n ih =>
    -- A first step that ends the series is the least one, as no step at all ended nothing.
    have least_one : m.halted = false → m.Over 1 → IsLeast {k | m.Over k ∨ n + 1 ≤ k} 1 := by
      intro hm hover
      refine ⟨.inl hover, ?_⟩
      rintro (_ | k) hk
      · exact absurd hk (not_or.mpr ⟨not_over_zero hm, by omega⟩)
      · omega
    cases hm : m.halted with
    | true =>
      rw [cruise_of_halted hm]
      exact ⟨0, ⟨.inl (.inl hm), fun k _ => Nat.zero_le k⟩, rfl, hm⟩
    | false =>
      rw [cruise_succ]
      rcases hstep : m.step.1 with f | (_ | _)
      · exact ⟨1, least_one hm (.inr ⟨f, hstep⟩), rfl, hstep⟩
      · obtain ⟨k, ⟨hk, hleast⟩, hstate, hstop⟩ := ih m.step.2
        refine ⟨k + 1, ⟨?_, ?_⟩, hstate, ?_⟩
        · rcases hk with hk | hk
          · exact .inl ((over_succ_iff hstep k).mpr hk)
          · exact .inr (Nat.succ_le_succ hk)
        · rintro (_ | j) hj
          · exact absurd hj (not_or.mpr ⟨not_over_zero hm, by omega⟩)
          · refine Nat.succ_le_succ (hleast ?_)
            rcases hj with hj | hj
            · exact .inl ((over_succ_iff hstep j).mp hj)
            · exact .inr (Nat.le_of_succ_le_succ hj)
        · cases hs : (m.step.2.cruise n).1 with
          | halted =>
            rw [hs] at hstop
            exact hstop
          | failed f =>
            rw [hs] at hstop
            cases k with
            | zero => exact hstop.elim
            | succ k => exact hstop
          | spent =>
            rw [hs] at hstop
            exact fun hover => hstop ((over_succ_iff hstep k).mp hover)
      · have hhalted := halted_of_step hstep
        exact ⟨1, least_one hm (.inl hhalted), rfl, hhalted⟩

theorem awake_of_not_over {k : Nat} (h : ¬ m.Over k) : (m.after k).halted = false := by
  cases hm : (m.after k).halted with
  | false => rfl
  | true => exact absurd (.inl hm) h

theorem cruise_of_not_over {k : Nat} (h : ∀ j ≤ k, ¬ m.Over j) :
    m.cruise k = (.spent, m.after k) := by
  obtain ⟨last, ⟨hlast, hleast⟩, hstate, hstop⟩ := cruise_stops k m
  have hle : last ≤ k := hleast (.inr (Nat.le_refl k))
  have heq : last = k := by
    rcases hlast with hover | hge
    · exact absurd hover (h last hle)
    · omega
  subst heq
  cases hs : (m.cruise last).1 with
  | spent => exact Prod.ext hs hstate
  | halted =>
    rw [hs] at hstop
    exact absurd (.inl hstop) (h last hle)
  | failed f =>
    rw [hs] at hstop
    exact absurd (.inr ⟨f, hstop⟩) (h last hle)

theorem steps_after {n : Nat} (h : ∀ k < n, ¬ m.Over k) : (m.after n).steps = m.steps + n := by
  induction n with
  | zero => rfl
  | succ n ih =>
    have hawake := awake_of_not_over (h n (Nat.lt_succ_self n))
    rw [after_succ, step_steps hawake, ih fun k hk => h k (Nat.lt_succ_of_lt hk), Nat.add_assoc]

/-- The run took `n` steps and a flush, and this is how it answers. -/
structure EndsAfter (m : Machine) (n : Nat) (result : Except Fault Outcome) (m' : Machine) :
    Prop where
  first : IsLeast {k | m.Ended k} n
  state : m' = (m.after n).flush.2
  steps : m'.steps = m.steps + n
  failed : ∀ f, m.FailedAt n f → result = .error f
  unflushed : (∀ f, ¬ m.FailedAt n f) → ∀ cause, (m.after n).output.flush.1 = some cause →
    result = .error (.output cause)
  halted : (∀ f, ¬ m.FailedAt n f) → (m.after n).output.flush.1 = none →
    (m.after n).halted = true → result = .ok (.halted m'.steps)
  stopped : (∀ f, ¬ m.FailedAt n f) → (m.after n).output.flush.1 = none →
    (m.after n).halted = false → result = .ok (.stepLimit m'.steps)

theorem settle_failed (f : Fault) (m : Machine) : settle (.failed f) m = (.error f, m.flush.2) := by
  simp only [settle, finish]

theorem settle_of_unflushed {stop : Stop} {cause : String} (h : m.output.flush.1 = some cause)
    (hs : ∀ f, stop ≠ .failed f) : settle stop m = (.error (.output cause), m.flush.2) := by
  cases stop with
  | failed f => exact absurd rfl (hs f)
  | _ => simp [settle, finish, flush_eq, h, Fault.ofOutput]

theorem settle_endsAfter {n : Nat} {stop : Stop} {result : Except Fault Outcome} {m' : Machine}
    (hfirst : IsLeast {k | m.Ended k} n) (hstop : m.StoppedBy n stop)
    (h : settle stop (m.after n) = (result, m')) : m.EndsAfter n result m' := by
  have hstate : m' = (m.after n).flush.2 := by
    rw [← settle_state stop, h]
  have hcount : (m.after n).flush.2.steps = (m.after n).steps := (flush_heading _).steps
  have hsteps : m'.steps = m.steps + n := by
    rw [hstate, hcount]
    exact steps_after fun k hk hover => absurd (hfirst.2 (.inl hover)) (Nat.not_le_of_lt hk)
  have hnot : (∀ f, ¬ m.FailedAt n f) → ∀ f, stop ≠ .failed f := by
    rintro hnone f rfl
    exact hnone f hstop
  refine ⟨hfirst, hstate, hsteps, ?_, ?_, ?_, ?_⟩
  · intro f hf
    cases stop with
    | halted => exact absurd (hstop.symm.trans hf.awake) (by simp)
    | failed g =>
      rw [settle_failed] at h
      rw [hf.unique hstop]
      exact (congrArg Prod.fst h).symm
    | spent => exact absurd (.inr ⟨f, hf⟩) hstop
  · intro hnone cause hcause
    rw [settle_of_unflushed hcause (hnot hnone)] at h
    exact (congrArg Prod.fst h).symm
  · intro hnone hflush hm
    rw [settle_of_flushed stop hflush] at h
    cases stop with
    | halted => rw [hstate, hcount]; exact (congrArg Prod.fst h).symm
    | failed g => exact absurd hstop (hnone g)
    | spent => exact absurd (.inl hm) hstop
  · intro hnone hflush hm
    rw [settle_of_flushed stop hflush] at h
    cases stop with
    | halted => exact absurd (hstop.symm.trans hm) (by simp)
    | failed g => exact absurd hstop (hnone g)
    | spent => rw [hstate, hcount]; exact (congrArg Prod.fst h).symm

theorem ended_iff_of_limit {limit : Nat} (h : m.config.stepLimit = some limit) (k : Nat) :
    m.Ended k ↔ m.Over k ∨ limit - m.steps ≤ k := by
  unfold Ended LimitReached
  simp only [h, Option.some.injEq, exists_eq_left', Nat.sub_le_iff_le_add']

theorem ended_iff_of_no_limit (h : m.config.stepLimit = none) (k : Nat) :
    m.Ended k ↔ m.Over k := by
  constructor
  · rintro (hover | ⟨limit, hsome, -⟩)
    · exact hover
    · exact absurd (h.symm.trans hsome) (by simp)
  · exact .inl

/-- Before the steps allowed are taken only a step itself can end a run. -/
theorem over_of_ended {fuel k : Nat} (hk : k < m.allowance fuel) (h : m.Ended k) : m.Over k := by
  unfold allowance at hk
  cases hlimit : m.config.stepLimit with
  | none => exact (ended_iff_of_no_limit hlimit k).mp h
  | some limit =>
    rw [hlimit] at hk
    rcases (ended_iff_of_limit hlimit k).mp h with hover | hreached
    · exact hover
    · exact absurd hk (Nat.not_lt_of_le hreached)

theorem ended_of_spent {fuel k : Nat} (hlimit : m.config.stepLimit ≠ none)
    (hk : m.allowance fuel ≤ k) : m.Ended k := by
  obtain ⟨limit, hsome⟩ := Option.ne_none_iff_exists'.mp hlimit
  rw [allowance, hsome] at hk
  exact (ended_iff_of_limit hsome k).mpr (.inr hk)

theorem run_endsWithin {fuel : Nat} {result : Except Fault Outcome} {m' : Machine}
    (h : m.run fuel = some (result, m')) :
    ∃ n ≤ m.allowance fuel, m.EndsAfter n result m' := by
  obtain ⟨hspent, hsettle⟩ := run_eq_some_iff.mp h
  obtain ⟨n, ⟨hn, hleast⟩, hstate, hstop⟩ := cruise_stops (m.allowance fuel) m
  have hfirst : IsLeast {k | m.Ended k} n := by
    constructor
    · by_cases hlimit : m.config.stepLimit = none
      · -- Fuel is no end, so the run was stopped by one of its steps.
        cases hs : (m.cruise (m.allowance fuel)).1 with
        | spent => exact absurd hs (hspent hlimit)
        | halted =>
          rw [hs] at hstop
          exact .inl (.inl hstop)
        | failed f =>
          rw [hs] at hstop
          exact .inl (.inr ⟨f, hstop⟩)
      · exact hn.elim .inl (ended_of_spent hlimit)
    · intro k hk
      by_cases hlt : k < m.allowance fuel
      · exact hleast (.inl (over_of_ended hlt hk))
      · exact hleast (.inr (Nat.le_of_not_lt hlt))
  refine ⟨n, hleast (.inr (Nat.le_refl _)), settle_endsAfter hfirst hstop ?_⟩
  rw [← hstate]
  exact hsettle

theorem run_endsAfter {fuel : Nat} {result : Except Fault Outcome} {m' : Machine}
    (h : m.run fuel = some (result, m')) : ∃ n, m.EndsAfter n result m' := by
  obtain ⟨n, -, hends⟩ := run_endsWithin h
  exact ⟨n, hends⟩

theorem runWithin_endsAfter {limit : Nat} (hlimit : m.config.stepLimit = some limit) :
    ∃ n, n ≤ limit - m.steps ∧
      m.EndsAfter n (m.runWithin limit).1 (m.runWithin limit).2 := by
  have hrun : m.run 0 = some (m.runWithin limit) := by rw [run, hlimit]
  have hallowed : m.allowance 0 = limit - m.steps := by rw [allowance, hlimit]
  rw [← hallowed]
  exact run_endsWithin hrun

/-- Under a step limit every run comes to its end, after no more steps than the limit leaves
and with no count on the way past both the limit and the count it began with. -/
theorem bounded_run_exact (m : Machine) (limit : Nat) (trace : Bool) (fuel : Nat) :
    let a := m.configure ⟨some limit, trace⟩
    ∃ n result m', a.run fuel = some (result, m') ∧ a.EndsAfter n result m' ∧
      n ≤ limit - m.steps ∧ m'.steps ≤ max limit m.steps ∧
      (∀ k ≤ n, (a.after k).steps = m.steps + k) ∧
      (limit < 2 ^ 64 → m.steps < 2 ^ 64 → ∀ k ≤ n, (a.after k).steps < 2 ^ 64) := by
  intro a
  have hlimit : a.config.stepLimit = some limit := rfl
  obtain ⟨n, hbound, hends⟩ := runWithin_endsAfter hlimit
  have hstart : a.steps = m.steps := rfl
  rw [hstart] at hbound
  have hcount : ∀ k ≤ n, (a.after k).steps = m.steps + k := by
    intro k hk
    exact steps_after fun j hj hover =>
      absurd (hends.first.2 (.inl hover)) (Nat.not_le_of_lt (Nat.lt_of_lt_of_le hj hk))
  refine ⟨n, (a.runWithin limit).1, (a.runWithin limit).2, rfl, hends, hbound, ?_, hcount, ?_⟩
  · rw [hends.steps]
    change m.steps + n ≤ max limit m.steps
    omega
  · intro hlimit hsteps k hk
    rw [hcount k hk]
    omega

/-- Takes everything and can never be flushed. -/
def clogged : Device := ⟨fun _ _ => none, fun _ _ => some "clogged"⟩

/-- The last permitted step fails, and so does the flush after it. -/
theorem bounded_run_exact_at_fault :
    let a := (start (Grid.parse "!-,@".toList) .eof clogged).configure ⟨some 3, false⟩
    ∃ m', a.run 0 = some (.error (.invalidCodePoint (-1)), m') ∧ m'.steps = 3 ∧
      m'.output.flush.1 = some "clogged" ∧ ∀ k ≤ 3, (a.after k).steps < 2 ^ 64 := by
  intro a
  have hlast : (a.run 0).map (fun p => (p.2.steps, p.2.output.flush.1)) =
      some (3, some "clogged") := by
    decide +kernel
  have hfailed : a.FailedAt 3 (.invalidCodePoint (-1)) := by
    change (a.after 2).step.1 = _
    cbv
  obtain ⟨n, result, m', hrun, hends, -, -, -, hword⟩ :=
    bounded_run_exact (start (Grid.parse "!-,@".toList) .eof clogged) 3 false 0
  rw [hrun, Option.map_some, Option.some.injEq, Prod.mk.injEq] at hlast
  have hcount : m'.steps = 3 := hlast.1
  have hn : n = 3 := by
    have hsteps : m'.steps = 0 + n := hends.steps
    omega
  rw [hends.failed _ (hn ▸ hfailed)] at hrun
  exact ⟨m', hrun, hcount, hlast.2, hn ▸ hword (by decide) (by decide)⟩

end Gridwalk.Machine
