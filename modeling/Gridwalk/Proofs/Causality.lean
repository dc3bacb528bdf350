import Gridwalk.Proofs.Lines
import Gridwalk.Proofs.Sessions

/-!
# Causality of input

Two machines that differ only in what follows a common stock of lines go through the same
states for as long as they do not turn to the input more often than the stock has lines.
-/
namespace Gridwalk.Machine

/-- How many of the next `n` steps turn to the input. An attempt that fails at its flush is not
among them. -/
def consulted : Nat → Machine → Nat
  | 0, _ => 0
  | n + 1, m => (if m.Consults then 1 else 0) + consulted n m.step.2

variable {m : Machine} {n : Nat} {stock : List UInt8} {s : Source}

theorem consulted_le_of_le {k : Nat} (h : k ≤ n) : m.consulted k ≤ m.consulted n := by
  induction k generalizing m n with
  | zero => exact Nat.zero_le _
  | succ k ih =>
    cases n with
    | zero => exact absurd h (Nat.not_succ_le_zero k)
    | succ n => exact Nat.add_le_add_left (ih (Nat.le_of_succ_le_succ h)) _

/-- One step leaves a stock for the steps after it, whatever follows the stock. -/
theorem exists_stock_after_step (hstock : Source.Closed stock)
    (hn : m.consulted (n + 1) ≤ (Source.lines stock).length)
    (hm : m.input = Source.prepend stock s) :
    ∃ rest, rest <:+ stock ∧ Source.Closed rest ∧
      m.step.2.consulted n ≤ (Source.lines rest).length ∧
      ∀ t, (m.fed (Source.prepend stock t)).step =
        (m.step.1, m.step.2.fed (Source.prepend rest t)) := by
  rw [consulted] at hn
  by_cases hconsults : m.Consults
  · rw [if_pos hconsults] at hn
    have hne : stock ≠ [] := by
      rintro rfl
      have hnone : 1 + m.step.2.consulted n ≤ 0 := hn
      omega
    obtain ⟨line, rest, rfl, hrest, hlines, hgives⟩ := hstock.exists_line hne
    rw [hlines, List.length_cons] at hn
    refine ⟨rest, List.suffix_append line rest, hrest, by omega, fun t => ?_⟩
    -- The line is the same one before every tail, so the step makes the same of it.
    have hsame : (Source.prepend (line ++ rest) t).readLine.1 = m.input.readLine.1 := by
      rw [hm, (hgives t).readLine, (hgives s).readLine]
    rw [step_fed_of_flushed hconsults.1 hconsults.2 hsame, (hgives t).readLine]
  · rw [if_neg hconsults, Nat.zero_add] at hn
    exact ⟨stock, List.suffix_refl stock, hstock, hn,
      fun t => step_fed_of_not_consults hconsults (Source.prepend stock t)⟩

/-- While the stock lasts, machines that differ only behind it stay side by side. -/
theorem exists_stock_after (hstock : Source.Closed stock)
    (hn : m.consulted n ≤ (Source.lines stock).length)
    (hm : m.input = Source.prepend stock s) :
    ∃ rest, rest <:+ stock ∧ (m.after n).input = Source.prepend rest s ∧
      ∀ t, (m.fed (Source.prepend stock t)).answers n = m.answers n ∧
        (m.fed (Source.prepend stock t)).after n = (m.after n).fed (Source.prepend rest t) := by
  induction n generalizing m stock with
  | zero => exact ⟨stock, List.suffix_refl stock, hm, fun t => ⟨rfl, rfl⟩⟩
  | succ n ih =>
    obtain ⟨mid, hmid, hclosed, hleft, hstep⟩ := exists_stock_after_step hstock hn hm
    have hinput : m.step.2.input = Source.prepend mid s := by
      apply input_of_step_fed
      rw [hm]
      exact hstep s
    obtain ⟨rest, hrest, hafter, hrun⟩ := ih hclosed hleft hinput
    refine ⟨rest, hrest.trans hmid, hafter, fun t => ?_⟩
    obtain ⟨hanswers, hstate⟩ := hrun t
    rw [answers, answers, after, after, hstep t]
    exact ⟨congrArg (m.step.1 :: ·) hanswers, hstate⟩

/-- Whatever a program does before it turns to a further line does not depend on that line. All
of the state is the same but for the input, and so is what the device has been given. -/
theorem input_read_causally (g : Grid) (d : Device) (n : Nat)
    (stock future future' : List UInt8) (hstock : Source.Closed stock)
    (hn : (start g (.ofBytes (stock ++ future)) d).consulted n ≤ (Source.lines stock).length) :
    let a := start g (.ofBytes (stock ++ future)) d
    let b := start g (.ofBytes (stock ++ future')) d
    b.answers n = a.answers n ∧
    ∀ k ≤ n, ∃ rest, rest <:+ stock ∧ (a.after k).input = .ofBytes (rest ++ future) ∧
      b.after k = (a.after k).fed (.ofBytes (rest ++ future')) := by
  intro a b
  have hinput : a.input = Source.prepend stock (.ofBytes future) :=
    Source.ofBytes_append stock future
  have hother : b = a.fed (Source.prepend stock (.ofBytes future')) :=
    congrArg (a.fed ·) (Source.ofBytes_append stock future')
  constructor
  · obtain ⟨rest, -, -, hrun⟩ := exists_stock_after hstock hn hinput
    rw [hother]
    exact (hrun (.ofBytes future')).1
  · intro k hk
    obtain ⟨rest, hrest, hafter, hrun⟩ :=
      exists_stock_after hstock (Nat.le_trans (consulted_le_of_le hk) hn) hinput
    refine ⟨rest, hrest, ?_⟩
    rw [hother, Source.ofBytes_append rest future, Source.ofBytes_append rest future']
    exact ⟨hafter, (hrun (.ofBytes future')).2⟩

/-- The second line is rejected, and in one of the runs the third one is not UTF-8. They part
only at the step that turns to it. -/
theorem input_read_causally_past_rejection :
    let a := start (Grid.parse "?,~".toList) (.ofBytes ([65, 13, 10, 120, 10] ++ [255])) .working
    let b := start (Grid.parse "?,~".toList) (.ofBytes ([65, 13, 10, 120, 10] ++ [51, 10])) .working
    b.answers 3 = a.answers 3 ∧ (b.after 4).x ≠ (a.after 4).x ∧
      ∃ rest, rest <:+ [65, 13, 10, 120, 10] ∧ (a.after 3).input = .ofBytes (rest ++ [255]) ∧
        b.after 3 = (a.after 3).fed (.ofBytes (rest ++ [51, 10])) := by
  intro a b
  obtain ⟨hanswers, hstates⟩ := input_read_causally (Grid.parse "?,~".toList) .working 3
    [65, 13, 10, 120, 10] [255] [51, 10] (.inr rfl) (by decide +kernel)
  exact ⟨hanswers, by decide +kernel, hstates 3 (Nat.le_refl 3)⟩

end Gridwalk.Machine
