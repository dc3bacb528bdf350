import Gridwalk.Proofs.CommandOutcome
import Gridwalk.Proofs.StepLimits

/-!
# The journal as a history

A traced machine notes every step before it takes it and is no different otherwise. So the
journal of a finished run tells the course of the machine from its first step on, up to the
step that halted or failed or used up the limit.
-/
namespace Gridwalk

theorem Entry.line_oneLine (e : Entry) : OneLine e.line := by
  have hname : OneLine e.direction.name.toList := by
    cases e.direction <;> decide +kernel
  have hstack : OneLine (stackText e.stack) := by
    have hvalues : ∀ t ∈ e.stack.bottomFirst.map (fun v => Decimal.writeInt v.toInt), OneLine t := by
      intro t ht
      obtain ⟨v, -, rfl⟩ := List.mem_map.mp ht
      exact Decimal.writeInt_oneLine v.toInt
    have hlist := OneLine.intercalate (by decide : OneLine [',', ' ']) hvalues
    exact (OneLine.append (s := ['[']) (by decide) hlist).append (by decide)
  unfold line
  -- From the back: what is shown, then the label in front of it.
  refine OneLine.append (OneLine.append ?_ ?_) hstack
  · refine OneLine.append (OneLine.append ?_ ?_) (Quoted.char_oneLine e.cell)
    · refine OneLine.append (OneLine.append ?_ ?_) hname
      · refine OneLine.append (OneLine.append ?_ ?_) (Decimal.writeInt_oneLine _)
        · refine OneLine.append (OneLine.append ?_ ?_) (Decimal.writeInt_oneLine _)
          · exact OneLine.append (by decide +kernel) (Decimal.writeNat_oneLine _)
          · decide +kernel
        · decide +kernel
      · decide +kernel
    · decide +kernel
  · decide +kernel

namespace Machine

/-- What there is to note of the first `n` steps. -/
def entries (m : Machine) (n : Nat) : List Entry :=
  (List.range n).map fun i => (m.after i).entry

variable {a b m m' : Machine} {n : Nat}

theorem entries_succ (n : Nat) (m : Machine) :
    m.entries (n + 1) = m.entries n ++ [(m.after n).entry] := by
  rw [entries, List.range_succ, List.map_append, List.map_singleton]
  rfl

theorem step_journal_traced (ht : m.config.trace = true) (hm : m.halted = false) :
    m.step.2.journal = m.journal.push m.entry := by
  have hcount : m.count.journal = m.journal.push m.entry := by simp [count, ht]
  rw [journal_of_awake hm, hcount]

theorem after_journal_traced (ht : m.config.trace = true) (h : ∀ k < n, ¬ m.Over k) :
    (m.after n).journal.toList = m.journal.toList ++ m.entries n := by
  induction n with
  | zero => exact (List.append_nil _).symm
  | succ n ih =>
    have hawake := awake_of_not_over (h n (Nat.lt_succ_self n))
    have htraced : (m.after n).config.trace = true := by
      rw [after_config]
      exact ht
    have hpast := ih fun k hk => h k (Nat.lt_succ_of_lt hk)
    rw [after_succ, step_journal_traced htraced hawake, Array.toList_push, hpast,
      List.append_assoc, entries_succ]

theorem EndsAfter.journal {result : Except Fault Outcome} (hends : m.EndsAfter n result m')
    (ht : m.config.trace = true) : m'.journal.toList = m.journal.toList ++ m.entries n := by
  rw [hends.state, (flush_heading _).journal]
  apply after_journal_traced ht
  intro k hk hover
  exact absurd (hends.first.2 (.inl hover)) (Nat.not_le_of_lt hk)

end Machine

namespace Command

end Command

end Gridwalk
