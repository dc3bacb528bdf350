import Mathlib
import Gridwalk.Proofs.Agreement

/-!
# Cells that matter

A run is decided by the instructions at the places it visits. Which character stands for an
instruction is seen only in a fault, and there only one character is possible.
-/
namespace Gridwalk

namespace Instruction

def zeroes : List Char := ['!', '0']

def swappers : List Char := ['\\', '/']

def vocabulary : List Char := "><^v!0+-:\\/?~$.,|_@".toList

/-- Equal, aliases of one instruction, or both of them no instruction. -/
def Interchangeable (a b : Char) : Prop :=
  a = b ∨ (a ∈ zeroes ∧ b ∈ zeroes) ∨ (a ∈ swappers ∧ b ∈ swappers) ∨
    (decode a = noop ∧ decode b = noop)

instance (a b : Char) : Decidable (Interchangeable a b) :=
  inferInstanceAs (Decidable (_ ∨ _))

theorem noop_or_mem_vocabulary (c : Char) : decode c = noop ∨ c ∈ vocabulary := by
  unfold decode
  split <;> first | exact .inl rfl | exact .inr (by decide)

theorem interchangeable_in_vocabulary {a b : Char} (ha : a ∈ vocabulary) (hb : b ∈ vocabulary)
    (h : decode a = decode b) : Interchangeable a b := by
  have table : (vocabulary.all fun a => vocabulary.all fun b =>
      decide (decode a = decode b → Interchangeable a b)) = true := by decide +kernel
  have hrow := List.all_eq_true.mp table a ha
  exact of_decide_eq_true (List.all_eq_true.mp hrow b hb) h

/-- There are no other ways to write an instruction differently. -/
theorem interchangeable_iff (a b : Char) : Interchangeable a b ↔ decode a = decode b := by
  constructor
  · rintro (rfl | ⟨ha, hb⟩ | ⟨ha, hb⟩ | ⟨ha, hb⟩)
    · rfl
    · simp only [zeroes, List.mem_cons, List.not_mem_nil, or_false] at ha hb
      rcases ha with rfl | rfl <;> rcases hb with rfl | rfl <;> rfl
    · simp only [swappers, List.mem_cons, List.not_mem_nil, or_false] at ha hb
      rcases ha with rfl | rfl <;> rcases hb with rfl | rfl <;> rfl
    · rw [ha, hb]
  · intro h
    rcases noop_or_mem_vocabulary a with ha | ha
    · exact .inr (.inr (.inr ⟨ha, h ▸ ha⟩))
    · rcases noop_or_mem_vocabulary b with hb | hb
      · exact .inr (.inr (.inr ⟨h.trans hb, hb⟩))
      · exact interchangeable_in_vocabulary ha hb h

end Instruction

namespace Grid

/-- The cells of a row; a missing row has none. -/
def row (g : Grid) (y : Nat) : List Char := g.toRows.getD y []

def codeAt (row : List Char) (x : Nat) : Instruction := Instruction.decode (row[x]?.getD blank)

/-- Ways to write a row that make no difference. -/
inductive SameText : List Char → List Char → Prop where
  | refl row : SameText row row
  | symm {a b} : SameText a b → SameText b a
  | trans {a b c} : SameText a b → SameText b c → SameText a c
  | exchange {a b} front back : Instruction.Interchangeable a b →
      SameText (front ++ a :: back) (front ++ b :: back)
  | pad row blanks : SameText row (row ++ List.replicate blanks blank)

theorem SameText.codes {a b : List Char} (h : SameText a b) (x : Nat) :
    codeAt a x = codeAt b x := by
  induction h with
  | refl => rfl
  | symm _ ih => exact ih.symm
  | trans _ _ ih ih' => exact ih.trans ih'
  | @exchange a b front back h =>
    unfold codeAt
    rcases Nat.lt_trichotomy x front.length with hx | hx | hx
    · rw [List.getElem?_append_left hx, List.getElem?_append_left hx]
    · simp [hx, (Instruction.interchangeable_iff a b).mp h]
    · obtain ⟨k, rfl⟩ := Nat.exists_eq_add_of_lt hx
      rw [List.getElem?_append_right (by omega), List.getElem?_append_right (by omega)]
      simp [show front.length + k + 1 - front.length = k + 1 by omega]
  | pad row blanks =>
    unfold codeAt
    by_cases hx : x < row.length
    · rw [List.getElem?_append_left hx]
    · rw [List.getElem?_append_right (by omega), List.getElem?_replicate,
        List.getElem?_eq_none (by omega)]
      split <;> rfl

/-- Blanks at the end of a line of text stand before its line end. -/
theorem SameText.pad_line (line : List Char) (blanks : Nat) :
    SameText (line ++ ['\n']) (line ++ List.replicate blanks blank ++ ['\n']) := by
  have hend : Instruction.Interchangeable '\n' blank := by decide
  have hfirst : SameText (line ++ ['\n']) (line ++ [blank]) := .exchange line [] hend
  have hpad : SameText (line ++ [blank]) (line ++ [blank] ++ List.replicate blanks blank) :=
    .pad _ blanks
  have hshift : line ++ [blank] ++ List.replicate blanks blank =
      line ++ List.replicate blanks blank ++ [blank] := by
    rw [List.append_assoc, List.append_assoc, List.singleton_append, ← List.replicate_succ,
      List.replicate_succ']
  have hlast : SameText (line ++ List.replicate blanks blank ++ ['\n'])
      (line ++ List.replicate blanks blank ++ [blank]) := .exchange _ [] hend
  exact hfirst.trans (hshift ▸ hpad |>.trans hlast.symm)

theorem decode_fetch_of_rows {g g' : Grid} (h : ∀ y x, codeAt (g.row y) x = codeAt (g'.row y) x)
    (x y : Int64) : Instruction.decode (g.fetch x y) = Instruction.decode (g'.fetch x y) := by
  have key : ∀ (g : Grid) row column, (g.cell? row column).getD blank =
      ((g.row row)[column]?).getD blank := by
    intro g row column
    rw [cell?_eq]
    unfold Grid.row
    rw [List.getD_eq_getElem?_getD]
    cases g.toRows[row]? <;> rfl
  unfold fetch
  split
  · rename_i column row _ _
    rw [key, key]
    exact h row column
  · rfl

end Grid

namespace Machine

def on (g : Grid) (m : Machine) : Machine := { m with grid := g }

/-- The places whose cells the first `n` steps look at. -/
def visited : Nat → Machine → List (Int64 × Int64)
  | 0, _ => []
  | n + 1, m => if m.halted then [] else (m.x, m.y) :: visited n m.step.2

/-- Equal answers to the first `n` steps, and then the same machine but for grid and journal. -/
def SameRun (n : Nat) (a b : Machine) : Prop :=
  b.answers n = a.answers n ∧
  b.after n = { a.after n with grid := b.grid, journal := (b.after n).journal }

theorem visited_of_halted {m : Machine} (h : m.halted = true) (n : Nat) : m.visited n = [] := by
  cases n with
  | zero => rfl
  | succ n => simp [visited, h]

theorem Agree.eq {a b : Machine} (h : Agree (· = ·) (· = ·) a b) (hconfig : a.config = b.config) :
    b = { a with grid := b.grid, journal := b.journal } := by
  obtain ⟨hx, hy, hdirection, hstack, hsteps, hhalted, hinput, houtput⟩ := h
  cases a
  cases b
  simp_all

/-- Agreeing machines keep agreeing as long as the first of them visits only places where
both grids hold the same instruction. -/
theorem after_agree {a b : Machine} (h : Agree (· = ·) (· = ·) a b) (n : Nat)
    (hcodes : ∀ p ∈ a.visited n,
      Instruction.decode (a.grid.fetch p.1 p.2) = Instruction.decode (b.grid.fetch p.1 p.2)) :
    a.answers n = b.answers n ∧ Agree (· = ·) (· = ·) (a.after n) (b.after n) := by
  -- The places of the later steps are those of the first machine, so only its list is followed.
  induction n generalizing a b with
  | zero => exact ⟨rfl, h⟩
  | succ n ih =>
    have hcell : a.halted = false →
        Instruction.decode a.cell = Instruction.decode b.cell := by
      intro ha
      unfold cell
      rw [← h.x, ← h.y]
      exact hcodes (a.x, a.y) (by simp [visited, ha])
    obtain ⟨hanswer, hafter⟩ :=
      step_agree Stack.congruence_eq Sink.congruence_eq h hcell
    have hrest : ∀ p ∈ a.step.2.visited n, Instruction.decode (a.step.2.grid.fetch p.1 p.2) =
        Instruction.decode (b.step.2.grid.fetch p.1 p.2) := by
      intro p hp
      rw [step_grid, step_grid]
      refine hcodes p ?_
      cases ha : a.halted with
      | true => rw [step_of_halted ha, visited_of_halted ha] at hp; simp at hp
      | false => simp [visited, ha, hp]
    obtain ⟨hanswers, hlast⟩ := ih hafter hrest
    refine ⟨?_, hlast⟩
    change a.step.1 :: a.step.2.answers n = b.step.1 :: b.step.2.answers n
    rw [hanswer, hanswers]

/-- The grids may hold different aliases, differ in places that are not visited, or be the same
text written differently. The journal shows the characters themselves and is left out. -/
theorem run_decided_by_visited_codes (m : Machine) (g : Grid) :
    (∀ n, (∀ p ∈ m.visited n, Instruction.decode (m.grid.fetch p.1 p.2) =
        Instruction.decode (g.fetch p.1 p.2)) → SameRun n m (m.on g)) ∧
    (∀ n, (∀ p ∈ m.visited n, m.grid.fetch p.1 p.2 = g.fetch p.1 p.2) → SameRun n m (m.on g)) ∧
    ((∀ y, Grid.SameText (m.grid.row y) (g.row y)) → ∀ n, SameRun n m (m.on g)) := by
  have decided : ∀ n, (∀ p ∈ m.visited n, Instruction.decode (m.grid.fetch p.1 p.2) =
      Instruction.decode (g.fetch p.1 p.2)) → SameRun n m (m.on g) := by
    intro n hcodes
    have hstart : Agree (· = ·) (· = ·) m (m.on g) := ⟨rfl, rfl, rfl, rfl, rfl, rfl, rfl, rfl⟩
    obtain ⟨hanswers, hafter⟩ := after_agree hstart n hcodes
    have hconfig : (m.after n).config = ((m.on g).after n).config := by
      rw [after_config, after_config]
      rfl
    refine ⟨hanswers.symm, ?_⟩
    have hlast := hafter.eq hconfig
    rwa [after_grid] at hlast
  refine ⟨decided, ?_, ?_⟩
  · intro n hcells
    exact decided n fun p hp => congrArg Instruction.decode (hcells p hp)
  · intro htext n
    exact decided n fun p _ =>
      Grid.decode_fetch_of_rows (fun y x => (htext y).codes x) p.1 p.2

/-- The second grid has another zero and another unvisited cell, and the failing read still
names the same character. The third is the first with a line written differently. -/
theorem run_decided_by_visited_codes_of_failing_read :
    let m := start (Grid.parse "!v\n ?".toList) .eof .working
    m.visited 4 = [(0, 0), (1, 0), (1, 1), (1, 1)] ∧
      SameRun 4 m (m.on (Grid.parse "0v~\nx?".toList)) ∧
      (m.on (Grid.parse "0v~\nx?".toList)).answers 4 = [.ok .running, .ok .running,
        .error (.inputExhausted '?'), .error (.inputExhausted '?')] ∧
      ∀ n, SameRun n m (m.on (Grid.parse "0v  \n ?".toList)) := by
  intro m
  have hvisited : m.visited 4 = [(0, 0), (1, 0), (1, 1), (1, 1)] := by decide +kernel
  have hrun := (run_decided_by_visited_codes m (Grid.parse "0v~\nx?".toList)).1 4 (by
    rw [hvisited]
    simp only [List.forall_mem_cons, List.not_mem_nil, false_implies, implies_true, and_true]
    decide +kernel)
  refine ⟨hvisited, hrun, hrun.1.trans (by cbv), ?_⟩
  refine (run_decided_by_visited_codes m (Grid.parse "0v  \n ?".toList)).2.2 ?_
  have hrows : m.grid.toRows = [['!', 'v', '\n'], [' ', '?']] := by rfl
  have hrows' : (Grid.parse "0v  \n ?".toList).toRows =
      [['0', 'v', ' ', ' ', '\n'], [' ', '?']] := by rfl
  intro y
  unfold Grid.row
  rw [hrows, hrows']
  rcases y with _ | _ | y
  · have hzero : Grid.SameText ['!', 'v', '\n'] ['0', 'v', '\n'] :=
      .exchange [] ['v', '\n'] (by decide)
    exact hzero.trans (.pad_line ['0', 'v'] 2)
  · exact .refl _
  · exact .refl _

end Machine

end Gridwalk
