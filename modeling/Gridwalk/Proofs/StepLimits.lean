import Gridwalk.Proofs.DriverIndependence
import Gridwalk.Proofs.Endings

/-!
# Step limits only cut runs short

A run that halts or fails under a step limit does the same under every larger one and under
none, and a run without a limit that comes to an end does so under a limit as well.
-/
namespace Gridwalk.Machine

/-- Equal in everything but the configuration and the journal. -/
abbrev SameMachine (a b : Machine) : Prop := Twin (· = ·) (· = ·) a b

variable {m : Machine}

theorem configure_sameMachine (m : Machine) (c c' : Config) :
    SameMachine (m.configure c) (m.configure c') :=
  ⟨⟨rfl, rfl, rfl, rfl, rfl, rfl, rfl, rfl⟩, rfl⟩

theorem cruise_flush_succeeds (hd : ∀ call held, m.output.device.refuseFlush call held = none)
    (n : Nat) : (m.cruise n).2.output.flush.1 = none := by
  have h : Resembles m m := ⟨⟨rfl, rfl, rfl, rfl, rfl, rfl, rfl, rfl, rfl, rfl, hd⟩, rfl⟩
  have hafter := cruise_twin Stack.congruence_eq Sink.congruence_sameWritten n h
  exact hafter.2.output.flush_answer

theorem settle_of_stopped (stop : Stop) (m : Machine) (steps : Nat) :
    stop ≠ .spent → (settle stop m).1 ≠ .ok (.stepLimit steps) := by
  intro hs h
  cases stop with
  | spent => exact absurd rfl hs
  | failed f => simp [settle_failed] at h
  | halted =>
    cases hflush : m.output.flush.1 with
    | none => simp [settle_of_flushed _ hflush] at h
    | some cause => simp [settle_of_unflushed hflush] at h

/-- Counted steps are all the allowance that a series of steps needs. -/
theorem cruise_of_count {n : Nat} {stop : Stop} {m' : Machine}
    (h : m.cruise n = (stop, m')) : m.cruise (m'.steps - m.steps) = (stop, m') := by
  induction n generalizing m with
  | zero =>
    have hm : m = m' := congrArg Prod.snd h
    rw [← hm, Nat.sub_self]
    rw [← hm] at h
    exact h
  | succ n ih =>
    cases hm : m.halted with
    | true =>
      rw [cruise_of_halted hm] at h ⊢
      exact h
    | false =>
      have hcount := step_steps hm
      have hgrows : m.step.2.steps ≤ (m.step.2.cruise n).2.steps :=
        cruise_preserves (P := fun u => m.step.2.steps ≤ u.steps)
          (fun u hu => Nat.le_trans hu u.steps_le_step) n (Nat.le_refl _)
      rw [cruise_succ] at h
      rcases hstep : m.step.1 with f | (_ | _) <;> simp only [hstep] at h
      · have hm' : m.step.2 = m' := congrArg Prod.snd h
        rw [← hm', hcount, Nat.add_sub_cancel_left, cruise_succ, hstep]
        exact hm' ▸ h
      · rw [h] at hgrows
        dsimp only at hgrows
        have hnext : m'.steps - m.steps = m'.steps - m.step.2.steps + 1 := by omega
        rw [hnext, cruise_succ, hstep]
        exact ih h
      · have hm' : m.step.2 = m' := congrArg Prod.snd h
        rw [← hm', hcount, Nat.add_sub_cancel_left, cruise_succ, hstep]
        exact hm' ▸ h

section Stopped

variable {k : Nat} {stop : Stop} {m' : Machine} (h : m.cruise k = (stop, m'))
  (hs : stop ≠ .spent)

include h hs

theorem runWithin_of_stopped {limit : Nat} (hk : k ≤ limit - m.steps) :
    m.runWithin limit = settle stop m' := by
  obtain ⟨n, hn⟩ := Nat.exists_eq_add_of_le hk
  rw [runWithin, hn, cruise_add_of_stopped h hs]

theorem runFreely_of_stopped {fuel : Nat} (hk : k ≤ fuel) :
    m.runFreely fuel = some (settle stop m') := by
  obtain ⟨n, rfl⟩ := Nat.exists_eq_add_of_le hk
  rw [runFreely, cruise_add_of_stopped h hs]
  cases stop with
  | spent => exact absurd rfl hs
  | halted => rfl
  | failed f => rfl

end Stopped

theorem stopped_of_runWithin (hd : ∀ call held, m.output.device.refuseFlush call held = none)
    {limit : Nat} {result : Except Fault Outcome} {m' : Machine}
    (h : m.runWithin limit = (result, m')) (hr : ∀ steps, result ≠ .ok (.stepLimit steps)) :
    ∃ stop u, m.cruise (limit - m.steps) = (stop, u) ∧ stop ≠ .spent ∧
      settle stop u = (result, m') := by
  rcases hc : m.cruise (limit - m.steps) with ⟨stop, u⟩
  rw [runWithin, hc] at h
  refine ⟨stop, u, rfl, ?_, h⟩
  rintro rfl
  -- With nothing to report from the flush, a series that was cut off reports the limit.
  have hflush : u.output.flush.1 = none := by
    have := cruise_flush_succeeds hd (limit - m.steps)
    rwa [hc] at this
  dsimp only at h
  rw [settle_of_flushed _ hflush] at h
  exact hr _ (congrArg Prod.fst h).symm

theorem stopped_of_runFreely {fuel : Nat} {result : Except Fault Outcome} {m' : Machine}
    (h : m.runFreely fuel = some (result, m')) :
    ∃ stop u, m.cruise fuel = (stop, u) ∧ stop ≠ .spent ∧ settle stop u = (result, m') := by
  rcases hc : m.cruise fuel with ⟨stop, u⟩
  unfold runFreely at h
  rw [hc] at h
  cases stop with
  | spent => simp at h
  | halted => exact ⟨_, u, rfl, by simp, Option.some.inj h⟩
  | failed f => exact ⟨_, u, rfl, by simp, Option.some.inj h⟩

section SameMachine

variable {a b : Machine} (h : SameMachine a b) {result : Except Fault Outcome} {a' : Machine}

include h

theorem runWithin_of_sameMachine {limit : Nat} (ha : a.runWithin limit = (result, a')) :
    ∃ b', b.runWithin limit = (result, b') ∧ SameMachine a' b' := by
  obtain ⟨answer, u, v, hu, hv, hsame⟩ :=
    (runWithin_twin Stack.congruence_eq Sink.congruence_eq h limit).split
  cases ha.symm.trans hu
  exact ⟨v, hv, hsame⟩

theorem runFreely_of_sameMachine {fuel : Nat} (ha : a.runFreely fuel = some (result, a')) :
    ∃ b', b.runFreely fuel = some (result, b') ∧ SameMachine a' b' := by
  have hpair := runFreely_twin Stack.congruence_eq Sink.congruence_eq h fuel
  rw [ha] at hpair
  generalize b.runFreely fuel = q at hpair
  cases hpair with
  | some hafter =>
    obtain ⟨answer, u, v, hu, hv, hsame⟩ := hafter.split
    cases hu
    exact ⟨v, congrArg some hv, hsame⟩

end SameMachine

/-- A run without a limit that ends needs no more of a limit than its final count. -/
theorem step_limit_only_cuts_short (m : Machine) :
    ((∀ call held, m.output.device.refuseFlush call held = none) →
      ∀ limit trace fuel result m',
        (m.configure ⟨some limit, trace⟩).run fuel = some (result, m') →
        (∀ steps, result ≠ .ok (.stepLimit steps)) →
        (∀ larger ≥ limit, ∀ trace' fuel', ∃ m'',
          (m.configure ⟨some larger, trace'⟩).run fuel' = some (result, m'') ∧
          SameMachine m' m'') ∧
        ∃ enough, ∀ fuel' ≥ enough, ∀ trace', ∃ m'',
          (m.configure ⟨none, trace'⟩).run fuel' = some (result, m'') ∧ SameMachine m' m'') ∧
    (∀ trace fuel result m', (m.configure ⟨none, trace⟩).run fuel = some (result, m') →
      (∀ steps, result ≠ .ok (.stepLimit steps)) ∧
      ∃ limit ≤ m'.steps, ∀ trace' fuel', ∃ m'',
        (m.configure ⟨some limit, trace'⟩).run fuel' = some (result, m'') ∧
        SameMachine m' m'') := by
  constructor
  · intro hd limit trace fuel result m' h hr
    have hsame : ∀ c, SameMachine (m.configure ⟨some limit, trace⟩) (m.configure c) :=
      m.configure_sameMachine ⟨some limit, trace⟩
    obtain ⟨stop, u, hcruise, hs, hsettle⟩ :=
      stopped_of_runWithin (m := m.configure ⟨some limit, trace⟩) hd (Option.some.inj h) hr
    constructor
    · intro larger hle trace' fuel'
      have hlarger := runWithin_of_stopped hcruise hs (Nat.sub_le_sub_right hle _)
      obtain ⟨m'', hrun, hafter⟩ :=
        runWithin_of_sameMachine (hsame ⟨some larger, trace'⟩) (hlarger.trans hsettle)
      exact ⟨m'', congrArg some hrun, hafter⟩
    · refine ⟨limit - m.steps, ?_⟩
      intro fuel' hfuel trace'
      have hfree := runFreely_of_stopped hcruise hs hfuel
      rw [hsettle] at hfree
      exact runFreely_of_sameMachine (hsame ⟨none, trace'⟩) hfree
  · intro trace fuel result m' h
    obtain ⟨stop, u, hcruise, hs, hsettle⟩ :=
      stopped_of_runFreely (m := m.configure ⟨none, trace⟩) h
    constructor
    · intro steps hsteps
      refine settle_of_stopped stop u steps hs ?_
      rw [hsettle]
      exact hsteps
    · have hcount : m'.steps = u.steps := by
        have hlast := settle_state stop u
        rw [hsettle] at hlast
        exact (congrArg Machine.steps hlast).trans u.flush_heading.steps
      refine ⟨m'.steps, Nat.le_refl _, ?_⟩
      intro trace' fuel'
      have hlimited := runWithin_of_stopped (cruise_of_count hcruise) hs
        (Nat.sub_le_sub_right (Nat.le_of_eq hcount.symm) _)
      obtain ⟨m'', hrun, hafter⟩ :=
        runWithin_of_sameMachine
          (m.configure_sameMachine ⟨none, trace⟩ ⟨some m'.steps, trace'⟩)
          (hlimited.trans hsettle)
      exact ⟨m'', congrArg some hrun, hafter⟩

/-- The only permitted step fails, and so does the same step of a run without a limit. -/
theorem step_limit_only_cuts_short_at_fault :
    let m := start (Grid.parse "~@".toList) (Source.ofBytes [120, 10]) .working
    let fault : Fault := .malformedInteger ['x'] .invalidDigit
    ∃ m', (m.configure ⟨some 1, true⟩).run 0 = some (.error fault, m') ∧
      (∃ m'', (m.configure ⟨some 9, false⟩).run 0 = some (.error fault, m'') ∧
        SameMachine m' m'') ∧
      ∃ fuel u, (m.configure ⟨none, false⟩).run fuel = some (.error fault, u) ∧
        SameMachine m' u ∧ ∃ limit ≤ u.steps, ∃ v,
          (m.configure ⟨some limit, true⟩).run 0 = some (.error fault, v) ∧ SameMachine u v := by
  intro m fault
  have hresult : ((m.configure ⟨some 1, true⟩).run 0).map Prod.fst = some (.error fault) := by
    cbv
  obtain ⟨⟨result, m'⟩, hrun, hfault⟩ := Option.map_eq_some_iff.mp hresult
  dsimp only at hfault
  subst hfault
  obtain ⟨hlonger, hfree⟩ := step_limit_only_cuts_short m
  obtain ⟨hlarger, enough, hnone⟩ :=
    hlonger (fun _ _ => rfl) 1 true 0 _ m' hrun (by intro steps h; cases h)
  obtain ⟨u, hu, hsame⟩ := hnone enough (Nat.le_refl _) false
  obtain ⟨-, limit, hle, hlimit⟩ := hfree false enough _ u hu
  exact ⟨m', hrun, hlarger 9 (by decide) false 0, enough, u, hu, hsame, limit, hle,
    hlimit true 0⟩

end Gridwalk.Machine
