import Mathlib
import Gridwalk.Proofs.Capacity
import Gridwalk.Proofs.Flushing
import Gridwalk.Proofs.Listings
import Gridwalk.Proofs.Pipes
import Gridwalk.Proofs.Segments

/-!
# Counting down

A program that prints the numbers from `k` down to one. A first row puts `k` on the stack, and then
the pointer goes round between two rows: it prints and decrements on the lower one and comes back
on the upper one, until the branch finds zero and lets it fall through to the end.
-/
namespace Gridwalk

open Decimal (InRange)

/-- One move leads from the first place to the second. -/
inductive Direction.Next : Direction → Nat → Nat → Nat → Nat → Prop where
  | right (x y) : Next .right x y (x + 1) y
  | up (x y) : Next .up x (y + 1) x y
  | left (x y) : Next .left (x + 1) y x y
  | down (x y) : Next .down x y x (y + 1)

theorem Direction.Next.toInt {d : Direction} {x y x' y' : Nat} (h : d.Next x y x' y') :
    (x' : Int) = x + d.delta.1.toInt ∧ (y' : Int) = y + d.delta.2.toInt := by
  cases h <;> exact ⟨by simp [delta], by simp [delta]⟩

namespace Machine

/-- The machine stands here with this stack, has written this text and can go on. -/
structure Stands (g : Grid) (x y : Nat) (d : Direction) (s : Stack) (text : List UInt8)
    (m : Machine) : Prop where
  grid : m.grid = g
  x : m.x.toInt = x
  y : m.y.toInt = y
  direction : m.direction = d
  stack : m.stack = s
  bytes : m.output.bytes.toList = text
  halted : m.halted = false
  reliable : m.output.Reliable

/-- From every machine of the first kind `n` steps lead to one of the second, and none of them
ends the run. -/
def Leads (P : Machine → Prop) (n : Nat) (Q : Machine → Prop) : Prop :=
  ∀ m, P m → ∃ u, m.cruise n = (.spent, u) ∧ Q u

theorem Leads.trans {P Q R : Machine → Prop} {n k : Nat} (h : Leads P n Q) (h' : Leads Q k R) :
    Leads P (n + k) R := by
  intro m hm
  obtain ⟨u, hu, hQ⟩ := h m hm
  obtain ⟨v, hv, hR⟩ := h' u hQ
  exact ⟨v, (cruise_add_of_spent hu k).trans hv, hR⟩

theorem Leads.rest {P : Machine → Prop} (hP : ∀ m, P m → m.halted = false) : Leads P 0 P :=
  fun m hm => ⟨m, cruise_zero (hP m hm), hm⟩

variable {m : Machine}

section Blocks

variable {g : Grid} {x y x' y' : Nat} {d d' : Direction} {s s' : Stack} {text : List UInt8}
  {c : Char}

theorem Stands.cell (h : Stands g x y d s text m) (hc : g.cell? y x = some c) : m.cell = c := by
  rw [Machine.cell, h.grid]
  exact Grid.fetch_of_cell? h.x h.y hc

theorem Stands.advance (h : Stands g x y d s text m) (hnext : d.Next x y x' y')
    (hfits : x' < 2 ^ 63 ∧ y' < 2 ^ 63) : Stands g x' y' d s text m.advance := by
  obtain ⟨hx, hy⟩ := hnext.toInt
  rw [← h.x, ← h.direction] at hx
  rw [← h.y, ← h.direction] at hy
  refine ⟨h.grid, ?_, ?_, h.direction, h.stack, h.bytes, h.halted, h.reliable⟩
  · rw [hx]
    exact toInt_add_of_inRange ⟨by omega, by omega⟩
  · rw [hy]
    exact toInt_add_of_inRange ⟨by omega, by omega⟩

theorem leads_quiet (hc : g.cell? y x = some c) (hhalt : Instruction.decode c ≠ .halt)
    (hquiet : (Instruction.decode c).isQuiet = true)
    (hact : (Instruction.decode c).act d s = (d', s')) (hnext : d'.Next x y x' y')
    (hfits : x' < 2 ^ 63 ∧ y' < 2 ^ 63) :
    Leads (Stands g x y d s text) 1 (Stands g x' y' d' s' text) := by
  intro m h
  have hcell := h.cell hc
  have hstep := step_quiet h.halted (by rwa [hcell]) (by rwa [hcell])
  rw [hcell, h.direction, h.stack, hact] at hstep
  refine ⟨m.step.2, cruise_one ?_ ?_, ?_⟩
  · rw [hstep]
  · rw [hstep]
    exact h.halted
  · rw [hstep]
    refine Stands.advance ?_ hnext hfits
    exact ⟨h.grid, h.x, h.y, rfl, rfl, h.bytes, h.halted, h.reliable⟩

theorem leads_print (hc : g.cell? y x = some '.') (hnext : d.Next x y x' y')
    (hfits : x' < 2 ^ 63 ∧ y' < 2 ^ 63) :
    Leads (Stands g x y d s text) 1 (Stands g x' y' d s.drop
      (text ++ Utf8.encode (Decimal.writeInt s.top.toInt ++ ['\n']))) := by
  intro m h
  have hcell := h.cell hc
  have hstep := step_of_printed h.halted (by rw [hcell]; rfl) (h.reliable.publish _)
  refine ⟨m.step.2, cruise_one ?_ ?_, ?_⟩
  · rw [hstep]
  · rw [hstep]
    exact h.halted
  · rw [hstep]
    refine Stands.advance ⟨h.grid, h.x, h.y, h.direction, ?_, ?_, h.halted, ?_⟩ hnext hfits
    · exact congrArg Stack.drop h.stack
    · change (m.output.publish _).2.bytes.toList = _
      rw [Sink.publish_bytes h.reliable.accepts, h.bytes, h.stack]
    · exact h.reliable.serve (.publish _)

end Blocks

end Machine

/-- The three rows of the program, without their line ends. -/
def countdownRows (k : Nat) : List (List Char) :=
  [['!'] ++ List.replicate k '+' ++ "v   <".toList,
    List.replicate (k + 1) ' ' ++ ">:.-|".toList,
    List.replicate (k + 5) ' ' ++ ['@']]

def countdown (k : Nat) : List Char := (countdownRows k).flatMap (· ++ ['\n'])

/-- The numbers from `k` down to one, each on a line of its own. -/
def countdownText : Nat → List Char
  | 0 => []
  | k + 1 => Decimal.writeNat (k + 1) ++ ['\n'] ++ countdownText k

namespace Countdown

open Machine

theorem toRows (k : Nat) :
    (Grid.parse (countdown k)).toRows = (countdownRows k).map (· ++ ['\n']) := by
  have hcr : '\r' ∉ countdown k := by
    simp [countdown, countdownRows, List.mem_replicate]
  have hlf : ∀ body ∈ countdownRows k, '\n' ∉ body := by
    simp [countdownRows, List.mem_replicate]
  rw [Grid.toRows_parse, Newline.unify_eq_translate, Newline.translate_of_no_cr hcr, countdown,
    Newline.cut_lines hlf]

/-- A cell behind `n` others in its row. -/
theorem cell_behind {k row n j : Nat} (front signs : List Char) {c : Char}
    (hrow : (countdownRows k)[row]? = some (front ++ signs)) (hn : front.length = n)
    (hc : signs[j]? = some c) : (Grid.parse (countdown k)).cell? row (n + j) = some c := by
  obtain ⟨hj, -⟩ := List.getElem?_eq_some_iff.mp hc
  rw [Grid.cell?_eq, toRows, List.getElem?_map, hrow, Option.map_some, Option.bind_some,
    List.append_assoc, List.getElem?_append_right (by omega), hn, Nat.add_sub_cancel_left,
    List.getElem?_append_left hj, hc]

theorem cell_zero (k : Nat) : (Grid.parse (countdown k)).cell? 0 0 = some '!' :=
  cell_behind (n := 0) (j := 0) [] _ rfl rfl rfl

theorem cell_plus {k i : Nat} (hi : i < k) :
    (Grid.parse (countdown k)).cell? 0 (1 + i) = some '+' := by
  refine cell_behind ['!'] (List.replicate k '+' ++ "v   <".toList) rfl rfl ?_
  rw [List.getElem?_append_left (by simpa using hi)]
  simp [hi]

theorem cell_upper {k j : Nat} {c : Char} (hc : "v   <".toList[j]? = some c) :
    (Grid.parse (countdown k)).cell? 0 (k + 1 + j) = some c :=
  cell_behind (['!'] ++ List.replicate k '+') _ rfl (by simp) hc

theorem cell_lower {k j : Nat} {c : Char} (hc : ">:.-|".toList[j]? = some c) :
    (Grid.parse (countdown k)).cell? 1 (k + 1 + j) = some c :=
  cell_behind (List.replicate (k + 1) ' ') _ rfl (by simp) hc

theorem cell_end (k : Nat) : (Grid.parse (countdown k)).cell? 2 (k + 5) = some '@' :=
  cell_behind (j := 0) (List.replicate (k + 5) ' ') _ rfl (by simp) rfl

/-- The machine stands in a grid of this size. -/
abbrev At (k x y : Nat) (d : Direction) (values : List Int64) (text : List UInt8) :
    Machine → Prop := Stands (Grid.parse (countdown k)) x y d ⟨values⟩ text

section Loop

variable {k : Nat} (hfits : 11 * k < 2 ^ 63) {d : Direction} {v : Int64} {values : List Int64}
  {text : List UInt8}

include hfits

theorem enters : Leads (At k (k + 1) 0 d values text) 1 (At k (k + 1) 1 .down values text) :=
  leads_quiet (cell_upper (j := 0) rfl) (by decide) rfl rfl (.down _ _) (by omega)

theorem prints : Leads (At k (k + 1) 1 .down [v] text) 4
    (At k (k + 5) 1 .right [v + -1]
      (text ++ Utf8.encode (Decimal.writeInt v.toInt ++ ['\n']))) := by
  have hturn : Leads (At k (k + 1) 1 .down [v] text) 1 (At k (k + 2) 1 .right [v] text) :=
    leads_quiet (cell_lower (j := 0) rfl) (by decide) rfl rfl (.right _ _) (by omega)
  have hdouble : Leads (At k (k + 2) 1 .right [v] text) 1 (At k (k + 3) 1 .right [v, v] text) :=
    leads_quiet (cell_lower (j := 1) rfl) (by decide) rfl rfl (.right _ _) (by omega)
  have hprint : Leads (At k (k + 3) 1 .right [v, v] text) 1 (At k (k + 4) 1 .right [v]
      (text ++ Utf8.encode (Decimal.writeInt v.toInt ++ ['\n']))) :=
    leads_print (cell_lower (j := 2) rfl) (.right _ _) (by omega)
  have hless : Leads (At k (k + 4) 1 .right [v]
      (text ++ Utf8.encode (Decimal.writeInt v.toInt ++ ['\n']))) 1 (At k (k + 5) 1 .right [v + -1]
      (text ++ Utf8.encode (Decimal.writeInt v.toInt ++ ['\n']))) :=
    leads_quiet (cell_lower (j := 3) rfl) (by decide) rfl rfl (.right _ _) (by omega)
  exact ((hturn.trans hdouble).trans hprint).trans hless

/-- With anything but zero on the stack the upper row leads back. -/
theorem returns (hv : v ≠ 0) :
    Leads (At k (k + 5) 1 .right [v] text) 6 (At k (k + 1) 1 .down [v] text) := by
  have hbranch : Leads (At k (k + 5) 1 .right [v] text) 1 (At k (k + 5) 0 .up [v] text) :=
    leads_quiet (cell_lower (j := 4) rfl) (by decide) rfl
      (Prod.ext (if_neg hv) rfl) (.up _ _) (by omega)
  have hturn : Leads (At k (k + 5) 0 .up [v] text) 1 (At k (k + 4) 0 .left [v] text) :=
    leads_quiet (cell_upper (j := 4) rfl) (by decide) rfl rfl (.left _ _) (by omega)
  have hblank : ∀ j < 3, Leads (At k (k + 1 + (j + 1)) 0 .left [v] text) 1
      (At k (k + 1 + j) 0 .left [v] text) := by
    intro j hj
    have hc : "v   <".toList[j + 1]? = some ' ' := by interval_cases j <;> rfl
    exact leads_quiet (cell_upper hc) (by decide) rfl rfl (.left _ _) (by omega)
  exact ((((hbranch.trans hturn).trans (hblank 2 (by omega))).trans
    (hblank 1 (by omega))).trans (hblank 0 (by omega))).trans (enters hfits)

theorem leaves : Leads (At k (k + 5) 1 .right [0] text) 1 (At k (k + 5) 2 .down [0] text) :=
  leads_quiet (cell_lower (j := 4) rfl) (by decide) rfl rfl (.down _ _) (by omega)

/-- As many steps as there are plus signs. -/
theorem climbs {j : Nat} (hj : j ≤ k) :
    Leads (At k 1 0 .right [0] text) j (At k (1 + j) 0 .right [Int64.ofNat j] text) := by
  induction j with
  | zero => exact .rest fun _ h => h.halted
  | succ j ih =>
    rw [Int64.ofNat_add]
    exact (ih (Nat.le_of_succ_le hj)).trans
      (leads_quiet (cell_plus hj) (by decide) rfl rfl (.right _ _) (by omega))

theorem sets_up :
    Leads (At k 0 0 .right [] []) (k + 2) (At k (k + 1) 1 .down [Int64.ofNat k] []) := by
  have hzero : Leads (At k 0 0 .right [] []) 1 (At k 1 0 .right [0] []) :=
    leads_quiet (cell_zero k) (by decide) rfl rfl (.right _ _) (by omega)
  have hclimb : Leads (At k 1 0 .right [0] []) k (At k (1 + k) 0 .right [Int64.ofNat k] []) :=
    climbs hfits (Nat.le_refl k)
  rw [Nat.add_comm 1 k] at hclimb
  have hsteps : k + 2 = 1 + k + 1 := by omega
  rw [hsteps]
  exact (hzero.trans hclimb).trans (enters hfits)

theorem prints_number {i : Nat} (hi : i < k) :
    Leads (At k (k + 1) 1 .down [Int64.ofNat (i + 1)] text) 4
      (At k (k + 5) 1 .right [Int64.ofNat i]
        (text ++ Utf8.encode (Decimal.writeNat (i + 1) ++ ['\n']))) := by
  have hvalue : (Int64.ofNat (i + 1)).toInt = (i + 1 : Nat) :=
    Int64.toInt_ofNat_of_lt (by omega)
  have hdigits : Decimal.writeInt (i + 1 : Nat) = Decimal.writeNat (i + 1) := rfl
  have hless : Int64.ofNat (i + 1) + -1 = Int64.ofNat i := by
    rw [Int64.ofNat_add]
    grind
  rw [← hless, ← hdigits, ← hvalue]
  exact prints hfits

/-- The invariant of the loop: what is on the stack is what is left to print. -/
theorem counts_down {i : Nat} (hi : i < k) :
    Leads (At k (k + 1) 1 .down [Int64.ofNat (i + 1)] text) (10 * i + 5)
      (At k (k + 5) 2 .down [0] (text ++ Utf8.encode (countdownText (i + 1)))) := by
  induction i generalizing text with
  | zero =>
    have hlast : countdownText 1 = Decimal.writeNat 1 ++ ['\n'] := rfl
    rw [hlast]
    exact (prints_number hfits hi).trans (leaves hfits)
  | succ i ih =>
    have hmore : Int64.ofNat (i + 1) ≠ 0 := by
      intro hzero
      have hvalue : (Int64.ofNat (i + 1)).toInt = (i + 1 : Nat) :=
        Int64.toInt_ofNat_of_lt (by omega)
      rw [hzero, Int64.toInt_zero] at hvalue
      omega
    have hsteps : 10 * (i + 1) + 5 = 4 + 6 + (10 * i + 5) := by omega
    rw [hsteps, countdownText, Utf8.encode_append, ← List.append_assoc]
    exact ((prints_number hfits hi).trans (returns hfits hmore)).trans (ih (Nat.lt_of_succ_lt hi))

theorem reaches_end (hk : 0 < k) :
    Leads (At k 0 0 .right [] []) (11 * k - 3)
      (At k (k + 5) 2 .down [0] (Utf8.encode (countdownText k))) := by
  obtain ⟨i, rfl⟩ := Nat.exists_eq_succ_of_ne_zero (Nat.ne_of_gt hk)
  have hsteps : 11 * (i + 1) - 3 = i + 1 + 2 + (10 * i + 5) := by omega
  rw [hsteps]
  exact (sets_up hfits).trans (counts_down hfits (Nat.lt_succ_self i))

end Loop

theorem start_at (k : Nat) (input : Source) {device : Device} (config : Config)
    (haccepts : ∀ call held, device.refuse call held = none)
    (hflushes : ∀ call held, device.refuseFlush call held = none) :
    At k 0 0 .right [] [] ((start (Grid.parse (countdown k)) input device).configure config) :=
  ⟨rfl, rfl, rfl, rfl, rfl, rfl, rfl, haccepts, hflushes⟩

/-- The run ends as it should: after so many steps, with zero on the stack and all numbers out. -/
def Completes (k : Nat) (p : Option (Except Fault Outcome × Machine)) : Prop :=
  ∃ m, p = some (.ok (.halted (11 * k - 2)), m) ∧ m.stack.values = [0] ∧
    m.output.bytes.toList = Utf8.encode (countdownText k) ∧
    m.output.received = Utf8.encode (countdownText k)

/-- The run is cut off, somewhere in its output. -/
def Breaks (k limit : Nat) (p : Option (Except Fault Outcome × Machine)) : Prop :=
  ∃ m, p = some (.ok (.stepLimit limit), m) ∧
    m.output.bytes.toList <+: Utf8.encode (countdownText k)

section Run

variable {k : Nat} (hfits : 11 * k < 2 ^ 63) (hk : 0 < k) {m : Machine}
  (h : At k 0 0 .right [] [] m) (hsteps : m.steps = 0) {fuel : Nat}

include hfits hk h hsteps

theorem completes (hallowed : 11 * k - 2 ≤ m.allowance fuel) : Completes k (m.run fuel) := by
  obtain ⟨u, hu, hend⟩ := reaches_end hfits hk m h
  have hcell : Instruction.decode u.cell = .halt := by
    rw [hend.cell (cell_end k)]
    rfl
  have hlast := step_of_halt hend.halted hcell
  generalize hw : ({ u.count with halted := true } : Machine) = w at hlast
  have houtput : w.output = u.output := by rw [← hw]; rfl
  have hcruise : m.cruise (11 * k - 3 + 1) = (.halted, w) := by
    rw [cruise_add_of_spent hu, cruise_succ, hlast]
  have hcount : w.steps = 11 * k - 2 := by
    have hbefore := cruise_steps hu
    rw [← hw]
    change u.steps + 1 = _
    omega
  have hflush : w.output.flush.1 = none := by
    rw [houtput]
    exact Sink.flush_unrefused hend.reliable.flushes
  obtain ⟨more, hmore⟩ := Nat.exists_eq_add_of_le
    (show 11 * k - 3 + 1 ≤ m.allowance fuel by omega)
  have hwhole : m.cruise (m.allowance fuel) = (.halted, w) := by
    rw [hmore]
    exact cruise_add_of_stopped hcruise (by simp) more
  refine ⟨w.flush.2, run_eq_some_iff.mpr ⟨?_, ?_⟩, ?_, ?_, ?_⟩
  · simp [hwhole]
  · rw [hwhole, settle_of_flushed _ hflush, hcount]
  · rw [flush_eq, ← hw]
    exact congrArg Stack.values hend.stack
  · rw [flush_eq]
    change w.output.flush.2.bytes.toList = _
    rw [Sink.flush_bytes, houtput, hend.bytes]
  · rw [flush_eq]
    change w.output.flush.2.received = _
    rw [Sink.received_flush hflush, houtput, hend.bytes]

theorem breaks {limit : Nat} (hlimit : m.config.stepLimit = some limit)
    (hshort : limit < 11 * k - 2) : Breaks k limit (m.run fuel) := by
  obtain ⟨u, hu, hend⟩ := reaches_end hfits hk m h
  obtain ⟨hlast, hearlier⟩ := cruise_of_spent hu
  have hbefore : limit ≤ 11 * k - 3 := by omega
  have hcruise := hearlier limit hbefore
  have hallowed : m.allowance fuel = limit := by
    rw [allowance, hlimit, hsteps]
    rfl
  have hflush : (m.after limit).output.flush.1 = none := after_flushed h.reliable.flushes limit
  have hcount : (m.after limit).steps = limit := by rw [cruise_steps hcruise, hsteps, Nat.zero_add]
  refine ⟨(m.after limit).flush.2, run_eq_some_iff.mpr ⟨?_, ?_⟩, ?_⟩
  · simp [hlimit]
  · rw [hallowed, hcruise, settle_of_flushed _ hflush, hcount]
  · rw [flush_eq, ← hend.bytes, hlast]
    change (m.after limit).output.flush.2.bytes.toList <+: _
    rw [Sink.flush_bytes]
    exact after_extends h.reliable.accepts hbefore

end Run

/-- The program of every size, on a sink that takes everything: without a limit, with one that is
large enough, and with one that is not. -/
theorem countdown_correct {k : Nat} (hk : 1 ≤ k) (hfits : 11 * k < 2 ^ 63) (input : Source)
    (device : Device) (haccepts : ∀ call held, device.refuse call held = none)
    (hflushes : ∀ call held, device.refuseFlush call held = none) (trace : Bool) :
    let m := start (Grid.parse (countdown k)) input device
    (∀ fuel ≥ 11 * k - 2, Completes k ((m.configure ⟨none, trace⟩).run fuel)) ∧
    (∀ limit ≥ 11 * k - 2, ∀ fuel, Completes k ((m.configure ⟨some limit, trace⟩).run fuel)) ∧
    ∀ limit < 11 * k - 2, ∀ fuel, Breaks k limit ((m.configure ⟨some limit, trace⟩).run fuel) := by
  intro m
  have hstart : ∀ config, At k 0 0 .right [] [] (m.configure config) := fun config =>
    start_at k input config haccepts hflushes
  refine ⟨fun fuel hfuel => ?_, fun limit hlimit fuel => ?_, fun limit hlimit fuel => ?_⟩
  · exact completes hfits hk (hstart _) rfl hfuel
  · exact completes hfits hk (hstart _) rfl hlimit
  · exact breaks hfits hk (hstart _) rfl rfl hlimit

/-- The three rows of the smallest program that goes round, which stops at the limit halfway. -/
theorem countdown_correct_from_two :
    countdown 2 = "!++v   <\n   >:.-|\n       @\n".toList ∧
    Completes 2 ((start (Grid.parse (countdown 2)) .eof .working).run 20) ∧
    Breaks 2 9 (((start (Grid.parse (countdown 2)) .eof .working).configure
      ⟨some 9, false⟩).run 0) := by
  obtain ⟨hfree, -, hshort⟩ := countdown_correct (k := 2) (by decide) (by decide) .eof
    .working (fun _ _ => rfl) (fun _ _ => rfl) false
  exact ⟨by decide, hfree 20 (by decide), hshort 9 (by decide) 0⟩

end Countdown

end Gridwalk
