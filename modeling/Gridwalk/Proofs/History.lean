import Gridwalk.Proofs.Sessions

/-!
# The history of a session

Every counted step of a session is taken from some machine. These machines in their order are
the history of the session, however its steps were spread over calls. What holds of a machine
together with its past is proved step by step.
-/
namespace Gridwalk.Machine

/-- The machines from which a series of at most `n` steps takes its counted steps. -/
def cruiseHistory : Nat → Machine → List Machine
  | 0, _ => []
  | n + 1, m =>
    if m.halted then []
    else
      m :: match m.step.1 with
        | .ok .running => cruiseHistory n m.step.2
        | _ => []

def callHistory (fuel : Nat) (m : Machine) : Call → List Machine
  | .step => m.cruiseHistory 1
  | .run =>
    match m.config.stepLimit with
    | some limit => m.cruiseHistory (limit - m.steps)
    | none => m.cruiseHistory fuel
  | .configure _ => []

/-- The machines from which a session takes its counted steps. -/
def history (fuel : Nat) (m : Machine) : List Call → List Machine
  | [] => []
  | call :: rest =>
    m.callHistory fuel call ++
      match m.perform fuel call with
      | some (_, m) => m.history fuel rest
      | none => []

theorem callHistory_run (fuel : Nat) (m : Machine) :
    m.callHistory fuel .run = m.cruiseHistory (m.allowance fuel) := by
  unfold callHistory allowance
  cases m.config.stepLimit <;> rfl

section Induction

variable {P : List Machine → Machine → Prop}
  (hstep : ∀ past m, m.halted = false → P past m → P (past ++ [m]) m.step.2)

include hstep

theorem cruise_history {past : List Machine} {m : Machine} (n : Nat) (h : P past m) :
    P (past ++ m.cruiseHistory n) (m.cruise n).2 := by
  induction n generalizing past m with
  | zero =>
    rw [cruiseHistory, List.append_nil]
    exact h
  | succ n ih =>
    by_cases hm : m.halted = true
    · rw [cruise_of_halted hm, cruiseHistory, if_pos hm, List.append_nil]
      exact h
    · have hs := hstep past m (Bool.eq_false_iff.mpr hm) h
      rw [cruise_succ, cruiseHistory, if_neg hm]
      rcases m.step.1 with f | (_ | _)
      · exact hs
      · rw [List.append_cons]
        exact ih hs
      · exact hs

theorem step_history {past : List Machine} {m : Machine} (h : P past m) :
    P (past ++ m.cruiseHistory 1) m.step.2 := by
  have hcruise := cruise_history hstep 1 h
  have hstate : (m.cruise 1).2 = m.step.2 := by
    rw [cruise_succ]
    rcases m.step.1 with f | (_ | _) <;> rfl
  rwa [hstate] at hcruise

theorem run_history {Q : List Machine → Machine → Prop}
    (hflush : ∀ past m, P past m → Q past m.flush.2) {past : List Machine} {m m' : Machine}
    {fuel : Nat} {result : Except Fault Outcome} (hr : m.run fuel = some (result, m'))
    (h : P past m) : Q (past ++ m.callHistory fuel .run) m' := by
  obtain ⟨-, hsettle⟩ := run_eq_some_iff.mp hr
  rw [← show _ = m' from congrArg Prod.snd hsettle, settle_state, callHistory_run]
  exact hflush _ _ (cruise_history hstep _ h)

end Induction

/-- What holds of a machine, its past and the number of runs so far, and is kept by steps, by the
flush that ends a run and by new configurations, holds at the end of every session, with the
history of the session as the past. -/
theorem performAll_tally {P : Nat → List Machine → Machine → Prop}
    (hstep : ∀ runs past m, m.halted = false → P runs past m → P runs (past ++ [m]) m.step.2)
    (hflush : ∀ runs past m, P runs past m → P (runs + 1) past m.flush.2)
    (hconfigure : ∀ runs past config m, P runs past m → P runs past (m.configure config))
    {fuel : Nat} {calls : List Call} {replies : List Reply} {a b : Machine}
    (h : a.performAll fuel calls = some (replies, b)) (runs : Nat) (past : List Machine)
    (ha : P runs past a) :
    P (runs + calls.count .run) (past ++ a.history fuel calls) b := by
  induction calls generalizing runs past a replies with
  | nil =>
    cases h
    rw [history, List.append_nil]
    exact ha
  | cons call rest ih =>
    simp only [performAll, bind, Option.bind_eq_some_iff] at h
    obtain ⟨⟨reply, u⟩, hu, ⟨replies', v⟩, hv, h⟩ := h
    cases h
    rw [history, hu, ← List.append_assoc, List.count_cons, Nat.add_comm (rest.count .run),
      ← Nat.add_assoc]
    refine ih hv _ _ ?_
    cases call with
    | step =>
      cases hu
      exact step_history (hstep runs) ha
    | configure config =>
      cases hu
      rw [callHistory, List.append_nil]
      exact hconfigure runs past config a ha
    | run =>
      obtain ⟨⟨result, w⟩, hw, heq⟩ := Option.map_eq_some_iff.mp hu
      cases heq
      exact run_history (hstep runs) (hflush runs) hw ha

theorem performAll_history {P : List Machine → Machine → Prop}
    (hstep : ∀ past m, m.halted = false → P past m → P (past ++ [m]) m.step.2)
    (hflush : ∀ past m, P past m → P past m.flush.2)
    (hconfigure : ∀ past config m, P past m → P past (m.configure config))
    {fuel : Nat} {calls : List Call} {replies : List Reply} {a b : Machine}
    (h : a.performAll fuel calls = some (replies, b)) (past : List Machine) (ha : P past a) :
    P (past ++ a.history fuel calls) b :=
  performAll_tally (P := fun _ => P) (fun _ => hstep) (fun _ => hflush) (fun _ => hconfigure)
    h 0 past ha

theorem getElem?_concat_cases {past : List Machine} {m u : Machine} {i : Nat}
    (h : (past ++ [m])[i]? = some u) :
    (past[i]? = some u ∧ (past ++ [m]).take i = past.take i) ∨
      (u = m ∧ (past ++ [m]).take i = past) := by
  by_cases hi : i < past.length
  · rw [List.getElem?_append_left hi] at h
    exact .inl ⟨h, List.take_append_of_le_length (Nat.le_of_lt hi)⟩
  · rw [List.getElem?_append_right (Nat.le_of_not_lt hi)] at h
    obtain ⟨hlast, h⟩ := List.getElem?_eq_some_iff.mp h
    rw [List.length_singleton] at hlast
    rw [List.getElem_singleton] at h
    rw [show i = past.length by omega, List.take_left]
    exact .inr ⟨h.symm, rfl⟩

/-- It holds at the end of a session and of every machine of its history with its own past. -/
theorem performAll_throughout {P : Nat → List Machine → Machine → Prop}
    (hstep : ∀ runs past m, m.halted = false → P runs past m → P runs (past ++ [m]) m.step.2)
    (hflush : ∀ runs past m, P runs past m → P (runs + 1) past m.flush.2)
    (hconfigure : ∀ runs past config m, P runs past m → P runs past (m.configure config))
    {fuel : Nat} {calls : List Call} {replies : List Reply} {a b : Machine}
    (h : a.performAll fuel calls = some (replies, b)) (ha : P 0 [] a) :
    let past := a.history fuel calls
    P (calls.count .run) past b ∧ ∀ i u, past[i]? = some u → ∃ runs, P runs (past.take i) u := by
  have key := performAll_tally
    (P := fun runs past m => P runs past m ∧
      ∀ i u, past[i]? = some u → ∃ runs, P runs (past.take i) u) ?_ ?_ ?_ h 0 [] ⟨ha, by simp⟩
  · rwa [Nat.zero_add, List.nil_append] at key
  · rintro runs past m hm ⟨hnow, hbefore⟩
    refine ⟨hstep runs past m hm hnow, ?_⟩
    intro i u hu
    rcases getElem?_concat_cases hu with ⟨hu, htake⟩ | ⟨rfl, htake⟩
    · rw [htake]
      exact hbefore i u hu
    · rw [htake]
      exact ⟨runs, hnow⟩
  · exact fun runs past m hm => ⟨hflush runs past m hm.1, hm.2⟩
  · exact fun runs past config m hm => ⟨hconfigure runs past config m hm.1, hm.2⟩

/-- Only awake machines are counted. -/
theorem history_awake {fuel : Nat} {calls : List Call} {replies : List Reply} {a b : Machine}
    (h : a.performAll fuel calls = some (replies, b)) :
    ∀ u ∈ a.history fuel calls, u.halted = false := by
  refine performAll_history (P := fun past _ => ∀ u ∈ past, u.halted = false) ?_ ?_ ?_ h [] ?_
  · intro past m hm hpast u hu
    rcases List.mem_append.mp hu with hu | hu
    · exact hpast u hu
    · rw [List.mem_singleton.mp hu]
      exact hm
  · exact fun _ _ hpast => hpast
  · exact fun _ _ _ hpast => hpast
  · simp

/-- A session goes on where an earlier part of it stopped. -/
theorem performAll_append {fuel : Nat} {first rest : List Call} {replies : List Reply}
    {a b : Machine} (h : a.performAll fuel (first ++ rest) = some (replies, b)) :
    ∃ early u late, a.performAll fuel first = some (early, u) ∧
      u.performAll fuel rest = some (late, b) ∧
      a.history fuel (first ++ rest) = a.history fuel first ++ u.history fuel rest := by
  induction first generalizing a replies with
  | nil => exact ⟨[], a, replies, rfl, h, rfl⟩
  | cons call first ih =>
    simp only [List.cons_append, performAll, bind, Option.bind_eq_some_iff] at h
    obtain ⟨⟨reply, v⟩, hv, ⟨replies', w⟩, hw, h⟩ := h
    cases h
    obtain ⟨early, u, late, hearly, hlate, hhistory⟩ := ih hw
    refine ⟨reply :: early, u, late, ?_, hlate, ?_⟩
    · simp only [performAll, bind, hv, Option.bind_some, hearly]
    · rw [List.cons_append, history, history, hv]
      simp only [hhistory, List.append_assoc]

/-- The history has one machine for every number that the count of steps went through. -/
theorem history_steps {fuel : Nat} {calls : List Call} {replies : List Reply} {a b : Machine}
    (h : a.performAll fuel calls = some (replies, b)) :
    (a.history fuel calls).map steps = List.range' a.steps (a.history fuel calls).length ∧
      b.steps = a.steps + (a.history fuel calls).length := by
  have key := performAll_history
    (P := fun past m => past.map steps = List.range' a.steps past.length ∧
      m.steps = a.steps + past.length) ?_ ?_ ?_ h [] ⟨rfl, rfl⟩
  · exact key
  · rintro past m hm ⟨hpast, hcount⟩
    rw [step_steps hm, List.map_append, List.length_append, hpast, List.map_singleton,
      List.length_singleton, List.range'_concat, hcount]
    exact ⟨by simp, by omega⟩
  · rintro past m ⟨hpast, hcount⟩
    exact ⟨hpast, m.flush_heading.steps.trans hcount⟩
  · exact fun past config m hm => hm

/-- From the start on, every number below the count belongs to one machine of the history. -/
theorem start_history {g : Grid} {s : Source} {d : Device} {fuel : Nat} {calls : List Call}
    {replies : List Reply} {m : Machine}
    (h : (start g s d).performAll fuel calls = some (replies, m)) :
    ((start g s d).history fuel calls).map steps = List.range m.steps ∧
      ∀ u ∈ (start g s d).history fuel calls, u.halted = false := by
  obtain ⟨hcount, hsteps⟩ := history_steps h
  refine ⟨?_, history_awake h⟩
  rw [hcount, hsteps, List.range_eq_range']
  exact congrArg (List.range' 0) (Nat.zero_add _).symm

end Gridwalk.Machine
