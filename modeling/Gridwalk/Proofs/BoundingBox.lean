import Mathlib
import Gridwalk.Proofs.Sessions

/-!
# The bounding box of a grid

The pointer may leave a ragged row and enter another one, but it never comes back into the
box around all rows: out there are only blanks, and nothing turns it any more.
-/
namespace Gridwalk

theorem Direction.delta_cases (d : Direction) :
    (d = .right ∧ d.delta.1.toInt = 1 ∧ d.delta.2.toInt = 0) ∨
    (d = .up ∧ d.delta.1.toInt = 0 ∧ d.delta.2.toInt = -1) ∨
    (d = .left ∧ d.delta.1.toInt = -1 ∧ d.delta.2.toInt = 0) ∨
    (d = .down ∧ d.delta.1.toInt = 0 ∧ d.delta.2.toInt = 1) := by
  cases d <;> decide

theorem toInt_add_of_small {x d : Int64} (hd : d.toInt.natAbs ≤ 1)
    (hx : x.toInt.natAbs + 1 < 2 ^ 63) : (x + d).toInt = x.toInt + d.toInt := by
  rw [Int64.toInt_add, Int.bmod_def]
  omega

namespace Grid

def width (g : Grid) : Nat := (g.toRows.map List.length).foldr max 0

/-- Inside the box, though perhaps past the end of a row. -/
def InBox (g : Grid) (x y : Int64) : Prop :=
  0 ≤ x.toInt ∧ x.toInt < g.width ∧ 0 ≤ y.toInt ∧ y.toInt < g.height

theorem length_le_longest {rows : List (List Char)} {row : List Char} (h : row ∈ rows) :
    row.length ≤ (rows.map List.length).foldr max 0 := by
  induction rows with
  | nil => simp at h
  | cons first rest ih =>
    simp only [List.map_cons, List.foldr_cons]
    rcases List.mem_cons.mp h with rfl | h
    · omega
    · have := ih h
      omega

theorem height_pos_of_width {g : Grid} (h : 0 < g.width) : 0 < g.height := by
  have hrows : g.toRows.length = g.height := by simp [toRows, height]
  unfold width at h
  cases hg : g.toRows with
  | nil => simp [hg] at h
  | cons first rest => simp [← hrows, hg]

theorem fetch_outside {g : Grid} {x y : Int64} (h : ¬ g.InBox x y) : g.fetch x y = blank := by
  unfold fetch
  split
  · rename_i column row hx hy
    cases hc : g.cell? row column with
    | none => rfl
    | some c =>
      rw [cell?_eq, Option.bind_eq_some_iff] at hc
      obtain ⟨cells, hcells, hcolumn⟩ := hc
      have hwidth : cells.length ≤ g.width := length_le_longest (List.mem_of_getElem? hcells)
      have hheight : g.toRows.length = g.height := by simp [toRows, height]
      obtain ⟨hrow, _⟩ := List.getElem?_eq_some_iff.mp hcells
      obtain ⟨hlt, _⟩ := List.getElem?_eq_some_iff.mp hcolumn
      rw [Int.ofNat_eq_natCast] at hx hy
      exact absurd ⟨by omega, by omega, by omega, by omega⟩ h
  · rfl

end Grid

namespace Machine

def Inside (m : Machine) : Prop := m.grid.InBox m.x m.y

/-- Beyond one side of the box and moving away from it. -/
def Leaving (m : Machine) : Prop :=
  (m.x.toInt < 0 ∧ m.direction = .left) ∨
  ((m.grid.width : Int) ≤ m.x.toInt ∧ m.direction = .right) ∨
  (m.y.toInt < 0 ∧ m.direction = .up) ∨
  ((m.grid.height : Int) ≤ m.y.toInt ∧ m.direction = .down)

theorem Leaving.not_inside {m : Machine} (h : m.Leaving) : ¬ m.Inside := by
  unfold Leaving at h
  unfold Inside Grid.InBox
  omega

/-- Every counted step moves the pointer by one cell or not at all. -/
structure Roaming (m : Machine) : Prop where
  spread : m.x.toInt.natAbs + m.y.toInt.natAbs ≤ m.steps
  place : m.Inside ∨ m.Leaving
  halted : m.halted = true → m.Inside

variable {m : Machine}

theorem cell_outside (h : ¬ m.Inside) : m.cell = Grid.blank := Grid.fetch_outside h

theorem step_outside (h : ¬ m.Inside) (hm : m.halted = false) :
    m.step = (.ok .running, m.count.advance) := by
  have hi : Instruction.decode m.cell = .noop := by rw [cell_outside h]; rfl
  have he : m.count.execute (Instruction.decode m.cell) = (.ok (), m.count) := by rw [hi]; rfl
  exact step_of_done hm (by simp [hi]) he

section Advance

variable (h : m.x.toInt.natAbs + m.y.toInt.natAbs + 1 < 2 ^ 63)

include h

theorem advance_toInt :
    m.advance.x.toInt = m.x.toInt + m.direction.delta.1.toInt ∧
    m.advance.y.toInt = m.y.toInt + m.direction.delta.2.toInt := by
  have hd := m.direction.delta_cases
  exact ⟨toInt_add_of_small (by omega) (by omega), toInt_add_of_small (by omega) (by omega)⟩

theorem advance_spread :
    m.advance.x.toInt.natAbs + m.advance.y.toInt.natAbs ≤
      m.x.toInt.natAbs + m.y.toInt.natAbs + 1 := by
  obtain ⟨hx, hy⟩ := advance_toInt h
  have hd := m.direction.delta_cases
  omega

/-- The box is left only in the direction of the move. -/
theorem advance_inside (hm : m.Inside) : m.advance.Inside ∨ m.advance.Leaving := by
  obtain ⟨hx, hy⟩ := advance_toInt h
  have hd := m.direction.delta_cases
  have hdirection : m.advance.direction = m.direction := rfl
  have hgrid : m.advance.grid = m.grid := rfl
  unfold Inside Leaving Grid.InBox at *
  rw [hx, hy, hdirection, hgrid]
  rcases hd with ⟨hd, hdx, hdy⟩ | ⟨hd, hdx, hdy⟩ | ⟨hd, hdx, hdy⟩ | ⟨hd, hdx, hdy⟩ <;>
    rw [hdx, hdy, hd] <;>
    simp only [reduceCtorEq, and_true, and_false, or_false, false_or] <;>
    omega

theorem advance_leaving (hm : m.Leaving) : m.advance.Leaving := by
  obtain ⟨hx, hy⟩ := advance_toInt h
  have hd := m.direction.delta_cases
  have hdirection : m.advance.direction = m.direction := rfl
  have hgrid : m.advance.grid = m.grid := rfl
  unfold Leaving at *
  rw [hx, hy, hdirection, hgrid]
  -- One coordinate grows away from the box; the other does not matter.
  rcases hm with ⟨hout, hm⟩ | ⟨hout, hm⟩ | ⟨hout, hm⟩ | ⟨hout, hm⟩ <;>
    simp only [hm, reduceCtorEq, and_true, and_false, or_false, false_or, false_and, true_and,
      or_self] at hd ⊢ <;>
    omega

end Advance

namespace Roaming

theorem awake (h : m.Roaming) (hout : ¬ m.Inside) : m.halted = false := by
  cases hm : m.halted with
  | false => rfl
  | true => exact absurd (h.halted hm) hout

theorem counted (h : m.Roaming) : m.count.Roaming :=
  ⟨Nat.le_succ_of_le h.spread, h.place, h.halted⟩

theorem configured (h : m.Roaming) (config : Config) : (m.configure config).Roaming :=
  ⟨h.spread, h.place, h.halted⟩

theorem of_heading {e : Machine} (h : m.Roaming) (hsame : SameHeading m e) : e.Roaming := by
  obtain ⟨hspread, hplace, hhalted⟩ := h
  have hinside : e.Inside ↔ m.Inside := by
    unfold Inside
    rw [hsame.x, hsame.y, hsame.grid]
  have hleaving : e.Leaving ↔ m.Leaving := by
    unfold Leaving
    rw [hsame.x, hsame.y, hsame.grid, hsame.direction]
  refine ⟨?_, ?_, ?_⟩
  · rw [hsame.x, hsame.y, hsame.steps]
    exact hspread
  · rw [hinside, hleaving]
    exact hplace
  · rw [hinside, hsame.halted]
    exact hhalted

theorem flushed (h : m.Roaming) : m.flush.2.Roaming := h.of_heading m.flush_heading

end Roaming

theorem advance_roaming (hspread : m.x.toInt.natAbs + m.y.toInt.natAbs < m.steps)
    (hplace : m.Inside ∨ m.Leaving) (hm : m.halted = false) (hlast : m.steps < 2 ^ 63) :
    m.advance.Roaming := by
  have hfar : m.x.toInt.natAbs + m.y.toInt.natAbs + 1 < 2 ^ 63 := by omega
  refine ⟨?_, ?_, ?_⟩
  · exact Nat.le_trans (advance_spread hfar) hspread
  · rcases hplace with hin | hleaving
    · exact advance_inside hfar hin
    · exact .inr (advance_leaving hfar hleaving)
  · intro hm'
    exact absurd (hm.symm.trans hm') (by simp)

theorem step_roaming (h : m.Roaming) (hlast : m.step.2.steps < 2 ^ 63) : m.step.2.Roaming := by
  have ht := m.step_taken
  generalize m.step.1 = answer, m.step.2 = m' at ht hlast
  cases ht with
  | idle => exact h
  | halt hm hi =>
    have hinside : m.Inside := by
      by_cases hin : m.Inside
      · exact hin
      · rw [cell_outside hin] at hi
        exact absurd hi (by decide)
    exact ⟨h.counted.spread, .inl hinside, fun _ => hinside⟩
  | fail _ _ he => exact h.counted.of_heading (execute_error_heading he)
  | @move e hm _ he =>
    have hsame := execute_setting he
    have hspread : e.x.toInt.natAbs + e.y.toInt.natAbs < e.steps := by
      rw [hsame.x, hsame.y, hsame.steps]
      exact Nat.lt_succ_of_le h.spread
    have hplace : e.Inside ∨ e.Leaving := by
      by_cases hin : m.Inside
      · refine .inl ?_
        rw [Inside, hsame.grid, hsame.x, hsame.y]
        exact hin
      · -- A blank is no instruction, so the direction is still that of leaving.
        rw [cell_outside hin] at he
        cases he
        exact .inr (h.place.resolve_left hin)
    exact advance_roaming hspread hplace (hsame.halted.trans hm) hlast

theorem reachable_roaming {g : Grid} {s : Source} {d : Device} (h : Reachable (start g s d) m) :
    m.grid = g ∧ (m.steps < 2 ^ 63 → m.Roaming) := by
  refine h.invariant (P := fun u => u.grid = g ∧ (u.steps < 2 ^ 63 → u.Roaming)) ?_ ?_ ?_ ?_
  · intro u hu
    refine ⟨u.step_grid.trans hu.1, fun hlast => step_roaming (hu.2 ?_) hlast⟩
    exact Nat.lt_of_le_of_lt u.steps_le_step hlast
  · intro u hu
    rw [u.flush_heading.steps, u.flush_heading.grid]
    exact ⟨hu.1, fun hlast => (hu.2 hlast).flushed⟩
  · intro config u hu
    exact ⟨hu.1, fun hlast => (hu.2 hlast).configured config⟩
  · refine ⟨rfl, fun _ => ⟨Nat.zero_le _, ?_, fun hm => by simp [start] at hm⟩⟩
    have hx : (start g s d).x.toInt = 0 := rfl
    have hy : (start g s d).y.toInt = 0 := rfl
    have hdirection : (start g s d).direction = .right := rfl
    have hgrid : (start g s d).grid = g := rfl
    unfold Inside Leaving Grid.InBox
    rw [hx, hy, hdirection, hgrid]
    by_cases hw : 0 < g.width
    · have := Grid.height_pos_of_width hw
      omega
    · exact .inr (.inr (.inl ⟨by omega, rfl⟩))

/-- As far beyond `a` as steps were counted, and otherwise unchanged. -/
structure Drifted (a b : Machine) : Prop where
  steps : a.steps ≤ b.steps
  x : b.x.toInt = a.x.toInt + ((b.steps : Int) - a.steps) * a.direction.delta.1.toInt
  y : b.y.toInt = a.y.toInt + ((b.steps : Int) - a.steps) * a.direction.delta.2.toInt
  direction : b.direction = a.direction
  stack : b.stack = a.stack
  halted : b.halted = a.halted
  input : b.input = a.input
  bytes : b.output.bytes = a.output.bytes

theorem Drifted.refl (m : Machine) : Drifted m m :=
  ⟨Nat.le_refl _, by simp, by simp, rfl, rfl, rfl, rfl, rfl⟩

theorem Drifted.trans {a b c : Machine} (h : Drifted a b) (k : Drifted b c) : Drifted a c := by
  refine ⟨Nat.le_trans h.steps k.steps, ?_, ?_, k.direction.trans h.direction,
    k.stack.trans h.stack, k.halted.trans h.halted, k.input.trans h.input, k.bytes.trans h.bytes⟩
  · rw [k.x, h.x, h.direction, Int.add_assoc, ← Int.add_mul]
    congr 2
    omega
  · rw [k.y, h.y, h.direction, Int.add_assoc, ← Int.add_mul]
    congr 2
    omega

theorem step_drifts (h : m.Roaming) (hout : ¬ m.Inside) (hlast : m.steps + 1 < 2 ^ 63) :
    m.step.1 = .ok .running ∧ Drifted m m.step.2 ∧ m.step.2.steps = m.steps + 1 ∧
      m.step.2.output = m.output ∧ ¬ m.step.2.Inside := by
  have hspread := h.spread
  have hfar : m.count.x.toInt.natAbs + m.count.y.toInt.natAbs + 1 < 2 ^ 63 :=
    Nat.lt_of_le_of_lt (Nat.succ_le_succ hspread) hlast
  obtain ⟨hx, hy⟩ := advance_toInt hfar
  have hleaving : m.count.advance.Leaving := advance_leaving hfar (h.place.resolve_left hout)
  have hcount : ((m.steps + 1 : Nat) : Int) - m.steps = 1 := by omega
  rw [step_outside hout (h.awake hout)]
  refine ⟨rfl, ⟨Nat.le_succ _, ?_, ?_, rfl, rfl, rfl, rfl, rfl⟩, rfl, rfl, hleaving.not_inside⟩
  · change _ = _ + (((m.steps + 1 : Nat) : Int) - m.steps) * _
    rw [hx, hcount, Int.one_mul]
    rfl
  · change _ = _ + (((m.steps + 1 : Nat) : Int) - m.steps) * _
    rw [hy, hcount, Int.one_mul]
    rfl

theorem after_drifts (h : m.Roaming) (hout : ¬ m.Inside) {n : Nat} (hn : m.steps + n < 2 ^ 63) :
    m.answers n = List.replicate n (.ok .running) ∧ Drifted m (m.after n) ∧
      (m.after n).steps = m.steps + n ∧ (m.after n).output = m.output := by
  induction n generalizing m with
  | zero => exact ⟨rfl, Drifted.refl m, rfl, rfl⟩
  | succ n ih =>
    obtain ⟨hanswer, hdrift, hsteps, houtput, hstill⟩ := step_drifts h hout (by omega)
    obtain ⟨hanswers, hrest, hcount, hsame⟩ :=
      ih (step_roaming h (by omega)) hstill (by omega)
    refine ⟨?_, hdrift.trans hrest, ?_, hsame.trans houtput⟩
    · change m.step.1 :: m.step.2.answers n = _
      rw [hanswer, hanswers, List.replicate_succ]
    · change (m.step.2.after n).steps = _
      rw [hcount, hsteps]
      omega

/-- Outside the box a session takes nothing in, puts nothing out and only drifts. -/
theorem reachable_drifts (h : m.Roaming) (hout : ¬ m.Inside) {m' : Machine}
    (hm : Reachable m m') (hlast : m'.steps < 2 ^ 63) :
    m'.Roaming ∧ ¬ m'.Inside ∧ Drifted m m' := by
  refine hm.invariant (P := fun u => u.steps < 2 ^ 63 → u.Roaming ∧ ¬ u.Inside ∧ Drifted m u)
    ?_ ?_ ?_ ?_ hlast
  · intro u hu hlast
    obtain ⟨hroaming, hout, hdrift⟩ := hu (Nat.lt_of_le_of_lt u.steps_le_step hlast)
    rw [step_steps (hroaming.awake hout)] at hlast
    obtain ⟨-, hone, hsteps, -, hstill⟩ := step_drifts hroaming hout hlast
    exact ⟨step_roaming hroaming (hsteps ▸ hlast), hstill, hdrift.trans hone⟩
  · intro u hu hlast
    obtain ⟨hroaming, hout, hdrift⟩ := hu (u.flush_heading.steps ▸ hlast)
    refine ⟨hroaming.flushed, ?_, ?_⟩
    · rw [flush_eq]
      exact hout
    · rw [flush_eq]
      exact ⟨hdrift.steps, hdrift.x, hdrift.y, hdrift.direction, hdrift.stack, hdrift.halted,
        hdrift.input, u.output.flush_bytes.trans hdrift.bytes⟩
  · intro config u hu hlast
    obtain ⟨hroaming, hout, hdrift⟩ := hu hlast
    exact ⟨hroaming.configured config, hout, hdrift.steps, hdrift.x, hdrift.y,
      hdrift.direction, hdrift.stack, hdrift.halted, hdrift.input, hdrift.bytes⟩
  · exact fun _ => ⟨h, hout, Drifted.refl m⟩

theorem runWithin_outside (h : m.Roaming) (hout : ¬ m.Inside) {limit : Nat}
    (hlimit : limit < 2 ^ 63) (hlast : m.steps < 2 ^ 63) (hflush : m.output.flush.1 = none) :
    (m.runWithin limit).1 = .ok (.stepLimit (max limit m.steps)) := by
  obtain ⟨hanswers, hdrift, hsteps, houtput⟩ :=
    after_drifts h hout (show m.steps + (limit - m.steps) < 2 ^ 63 by omega)
  have hcruise := cruise_of_running hanswers (hdrift.halted.trans (h.awake hout))
  rw [runWithin, hcruise]
  dsimp only
  rw [settle_of_flushed _ (houtput ▸ hflush), hsteps]
  dsimp only
  congr 2
  omega

/-- The last part holds for the first moment outside and for any later moment of the session. -/
theorem leaving_is_permanent {g : Grid} {s : Source} {d : Device} {m : Machine}
    (h : Reachable (start g s d) m) (hm : m.steps < 2 ^ 63) :
    m.grid = g ∧ (m.Inside ∨ m.Leaving) ∧
    (¬ m.Inside → ∀ m', Reachable m m' → m'.steps < 2 ^ 63 →
      ¬ m'.Inside ∧ Drifted m m' ∧
      (∀ n, m'.steps + n < 2 ^ 63 →
        m'.answers n = List.replicate n (.ok .running) ∧ Drifted m' (m'.after n) ∧
        (m'.after n).steps = m'.steps + n ∧ (m'.after n).output = m'.output) ∧
      (∀ limit trace fuel, limit < 2 ^ 63 → m'.output.flush.1 = none →
        ∃ u, (m'.configure ⟨some limit, trace⟩).run fuel =
          some (.ok (.stepLimit (max limit m'.steps)), u))) := by
  obtain ⟨hgrid, hroaming⟩ := reachable_roaming h
  refine ⟨hgrid, (hroaming hm).place, ?_⟩
  intro hout m' hm' hlast
  obtain ⟨hroaming', hout', hdrift⟩ := reachable_drifts (hroaming hm) hout hm' hlast
  refine ⟨hout', hdrift, fun n hn => after_drifts hroaming' hout' hn, ?_⟩
  intro limit trace fuel hlimit hflush
  have hconfigured := hroaming'.configured ⟨some limit, trace⟩
  have hrun := runWithin_outside hconfigured hout' hlimit hlast hflush
  exact ⟨_, congrArg some (Prod.ext hrun rfl)⟩

/-- The pointer passes the end of a long row and of a short one before it leaves the box. -/
theorem leaving_is_permanent_after_short_row :
    let m₀ := start (Grid.parse "v   \n\n>".toList) .eof .working
    ∃ m, Reachable m₀ m ∧ m.steps = 7 ∧ ¬ m.Inside ∧ m.Leaving ∧
      m.answers 3 = List.replicate 3 (.ok .running) ∧
      ∃ u, (m.configure ⟨some 20, false⟩).run 0 = some (.ok (.stepLimit 20), u) := by
  intro m₀
  have hrun : (m₀.performAll 0 (List.replicate 7 .step)).map
      (fun p => (p.2.x.toInt, p.2.steps, p.2.output.flush.1)) = some (5, 7, none) := by
    decide +kernel
  obtain ⟨⟨replies, m⟩, hcalls, hlast⟩ := Option.map_eq_some_iff.mp hrun
  simp only [Prod.mk.injEq] at hlast
  obtain ⟨hx, hsteps, hflush⟩ := hlast
  have hm : Reachable m₀ m := ⟨0, _, replies, hcalls⟩
  obtain ⟨hgrid, hplace, hrest⟩ := leaving_is_permanent hm (by omega)
  have hout : ¬ m.Inside := by
    have hwidth : (Grid.parse "v   \n\n>".toList).width = 5 := by decide +kernel
    unfold Inside Grid.InBox
    rw [hgrid, hwidth]
    omega
  obtain ⟨-, -, hsteps', hruns⟩ := hrest hout m ⟨0, [], [], rfl⟩ (by omega)
  have hlimit := hruns 20 false 0 (by omega) hflush
  rw [hsteps] at hlimit
  exact ⟨m, hm, hsteps, hout, hplace.resolve_left hout, (hsteps' 3 (by omega)).1, hlimit⟩

end Machine

end Gridwalk
