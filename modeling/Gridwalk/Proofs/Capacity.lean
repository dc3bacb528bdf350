import Gridwalk.Proofs.Requests
import Gridwalk.Proofs.StepLimits

/-!
# Output into a device that fills up

A device with room for some bytes keeps as many as it has room for and refuses the rest. A run
on it is the run on a working device, cut off in the step whose bytes no longer fit.
-/
namespace Gridwalk

namespace Sink

/-- What was written so far, with another device behind it. -/
def onto (d : Device) (s : Sink) : Sink := { s with device := d }

variable {capacity : Nat} (cause : String) {s : Sink}

/-- Bytes are taken as long as there is room for them. -/
theorem offer_capped {held : Array UInt8} (h : held.size ≤ capacity) (call : Nat)
    (piece : List UInt8) :
    offer (.capped capacity cause) call held piece =
      (if held.size + piece.length ≤ capacity then none else some cause,
        held ++ piece.take (capacity - held.size)) := by
  induction piece generalizing held with
  | nil => simp [offer, h]
  | cons b rest ih =>
    by_cases hroom : held.size < capacity
    · have hrefuse : (Device.capped capacity cause).refuse call held.size = none := if_pos hroom
      have hpush : (held.push b).size = held.size + 1 := Array.size_push b
      have hsize : held.size + 1 + rest.length = held.size + (b :: rest).length := by
        rw [List.length_cons]
        omega
      have htake : (b :: rest).take (capacity - held.size) =
          b :: rest.take (capacity - (held.size + 1)) := by
        rw [show capacity - held.size = capacity - (held.size + 1) + 1 by omega,
          List.take_succ_cons]
      rw [offer, hrefuse]
      dsimp only
      rw [ih (by omega), hpush, hsize, htake]
      simp
    · have hrefuse : (Device.capped capacity cause).refuse call held.size = some cause :=
        if_neg hroom
      have hover : ¬ held.size + (b :: rest).length ≤ capacity := by
        rw [List.length_cons]
        omega
      rw [offer, hrefuse, if_neg hover, show capacity - held.size = 0 by omega]
      simp

theorem write_capped (h : s.bytes.size ≤ capacity) (piece : List UInt8) :
    (s.onto (.capped capacity cause)).write piece =
      (if s.bytes.size + piece.length ≤ capacity then none else some cause,
        { s with
          device := .capped capacity cause
          bytes := s.bytes ++ piece.take (capacity - s.bytes.size)
          writes := s.writes + 1 }) := by
  simp only [write, onto, offer_capped cause h]

/-- Neither of the two devices fails to flush. -/
theorem flush_onto (hd : s.device = .working) :
    (s.onto (.capped capacity cause)).flush =
      (s.flush.1, s.flush.2.onto (.capped capacity cause)) := by
  simp [flush, onto, hd, Device.capped, Device.working]

section Working

variable (hd : s.device = .working) {piece : List UInt8}

include hd

theorem publish_size : (s.publish piece).2.bytes.size = s.bytes.size + piece.length := by
  rw [← Array.length_toList, publish_bytes (accepts_of_working hd), List.length_append,
    Array.length_toList]

theorem publish_of_room (hroom : s.bytes.size + piece.length ≤ capacity) :
    (s.onto (.capped capacity cause)).publish piece =
      ((s.publish piece).1, (s.publish piece).2.onto (.capped capacity cause)) := by
  have hall : piece.take (capacity - s.bytes.size) = piece :=
    List.take_of_length_le (by omega)
  rw [publish, write_capped cause (by omega), if_pos hroom, hall,
    publish_accepted (accepts_of_working hd)]
  exact flush_onto cause (s := { s with bytes := s.bytes ++ piece, writes := s.writes + 1 }) hd

/-- What is over the capacity is lost, and the write says so. -/
theorem publish_of_no_room (hheld : s.bytes.size ≤ capacity)
    (hover : capacity < s.bytes.size + piece.length) :
    ((s.onto (.capped capacity cause)).publish piece).1 = some cause ∧
      ((s.onto (.capped capacity cause)).publish piece).2.bytes.toList =
        (s.publish piece).2.bytes.toList.take capacity := by
  rw [publish, write_capped cause hheld, if_neg (Nat.not_le_of_lt hover),
    publish_bytes (accepts_of_working hd), List.take_append, List.take_of_length_le hheld]
  simp

end Working

/-- As long as the bytes fit, it does not matter which of the two devices is asked. -/
theorem serve_of_room (hd : s.device = .working) {r : Request}
    (hroom : (s.serve r).2.bytes.size ≤ capacity) :
    (s.onto (.capped capacity cause)).serve r =
      ((s.serve r).1, (s.serve r).2.onto (.capped capacity cause)) := by
  cases r with
  | nothing => rfl
  | flush => exact flush_onto cause hd
  | publish piece =>
    rw [serve, publish_size hd] at hroom
    exact publish_of_room cause hd hroom

end Sink

namespace Machine

/-- The same machine with a device of limited capacity behind what it wrote. -/
def filling (capacity : Nat) (cause : String) (m : Machine) : Machine :=
  m.into (m.output.onto (.capped capacity cause))

/-- A machine whose step was cut off while it wrote. -/
def cutOff (s : Sink) (m : Machine) : Machine :=
  { m.count with stack := m.stack.drop, output := s }

variable {capacity : Nat} (cause : String) {m : Machine}

theorem step_filling (hd : m.output.device = .working)
    (hroom : m.step.2.output.bytes.size ≤ capacity) :
    (m.filling capacity cause).step = (m.step.1, m.step.2.filling capacity cause) := by
  rw [step_sink] at hroom
  have hserve := Sink.serve_of_room cause hd hroom
  have hanswer := congrArg Prod.fst hserve
  dsimp only at hanswer
  rw [filling, step_into hanswer, hserve, filling, step_sink]

theorem piece_of_growth (h : m.output.bytes.size < m.step.2.output.bytes.size) :
    m.piece ≠ [] := by
  rcases m.step_output with ⟨-, hsame | hsame⟩ | ⟨hpiece, -⟩
  · rw [hsame] at h
    exact absurd h (Nat.lt_irrefl _)
  · rw [hsame, Sink.flush_bytes] at h
    exact absurd h (Nat.lt_irrefl _)
  · exact hpiece

/-- A step whose bytes do not fit leaves as many of them as there is room for, and nothing else
of what it would have done but its count and the loss of its word. -/
theorem step_of_no_room (hd : m.output.device = .working)
    (hheld : m.output.bytes.size ≤ capacity) (hover : capacity < m.step.2.output.bytes.size) :
    ∃ s, (m.filling capacity cause).step = (.error (.output cause), m.cutOff s) ∧
      s.bytes.toList = m.step.2.output.bytes.toList.take capacity := by
  have hpiece : m.piece ≠ [] := piece_of_growth (Nat.lt_of_le_of_lt hheld hover)
  have hserved : m.step.2.output = (m.output.publish m.piece).2 := by
    rw [step_sink, request_of_piece hpiece]
    rfl
  rw [hserved, Sink.publish_size hd] at hover
  obtain ⟨hfailed, hbytes⟩ := Sink.publish_of_no_room cause hd hheld hover
  refine ⟨_, step_of_unpublished (m := m.filling capacity cause) hpiece hfailed, ?_⟩
  rw [hserved]
  exact hbytes

section Extends

variable (hd : ∀ call held, m.output.device.refuse call held = none)

include hd

theorem step_extends : m.output.bytes.toList <+: m.step.2.output.bytes.toList := by
  rw [step_bytes hd]
  exact List.prefix_append _ _

theorem after_extends {j k : Nat} (hjk : j ≤ k) :
    (m.after j).output.bytes.toList <+: (m.after k).output.bytes.toList := by
  induction k, hjk using Nat.le_induction with
  | base => exact List.prefix_rfl
  | succ k _ ih =>
    rw [after_succ]
    refine ih.trans (step_extends ?_)
    rw [after_device]
    exact hd

theorem after_size_le {j k : Nat} (hjk : j ≤ k) :
    (m.after j).output.bytes.size ≤ (m.after k).output.bytes.size := by
  rw [← Array.length_toList, ← Array.length_toList]
  exact (after_extends hd hjk).length_le

theorem cruise_size_le (n : Nat) :
    m.output.bytes.size ≤ (m.cruise n).2.output.bytes.size := by
  obtain ⟨last, -, hstate, -⟩ := cruise_stops n m
  rw [hstate]
  exact after_size_le hd (Nat.zero_le last)

/-- Between room enough and too many bytes there is one step that crosses the capacity. -/
theorem exists_crossing {last : Nat} (hheld : m.output.bytes.size ≤ capacity)
    (hover : capacity < (m.after last).output.bytes.size) :
    ∃ k < last, IsLeast {k | capacity < (m.after (k + 1)).output.bytes.size} k ∧
      (m.after k).output.bytes.size ≤ capacity := by
  have hsome : ∃ k, capacity < (m.after (k + 1)).output.bytes.size :=
    ⟨last, Nat.lt_of_lt_of_le hover (after_size_le hd (Nat.le_succ last))⟩
  obtain ⟨k, hk⟩ : ∃ k, IsLeast {k | capacity < (m.after (k + 1)).output.bytes.size} k :=
    ⟨Nat.find hsome, Nat.find_spec hsome, fun j => Nat.find_min' hsome⟩
  have hroom : (m.after k).output.bytes.size ≤ capacity := by
    cases k with
    | zero => exact hheld
    | succ k =>
      by_contra hlarge
      exact absurd (hk.2 (Nat.lt_of_not_le hlarge)) (Nat.not_succ_le_self k)
  refine ⟨k, ?_, hk, hroom⟩
  by_contra hle
  have := after_size_le hd (Nat.le_of_not_lt hle)
  omega

end Extends

theorem cruise_filling (hd : m.output.device = .working) {n : Nat}
    (hroom : (m.cruise n).2.output.bytes.size ≤ capacity) :
    (m.filling capacity cause).cruise n =
      ((m.cruise n).1, (m.cruise n).2.filling capacity cause) := by
  induction n generalizing m with
  | zero => rfl
  | succ n ih =>
    have hnext : m.step.2.output.device = .working := m.step_device.trans hd
    rw [cruise_succ] at hroom ⊢
    rw [cruise_succ]
    rcases hstep : m.step.1 with f | (_ | _) <;> simp only [hstep] at hroom ⊢
    · rw [step_filling cause hd hroom, hstep]
    · have hfirst := Nat.le_trans (cruise_size_le (Sink.accepts_of_working hnext) n) hroom
      rw [step_filling cause hd hfirst, hstep]
      exact ih hnext hroom
    · rw [step_filling cause hd hroom, hstep]

/-- The series of steps is cut off in the first step whose bytes do not fit. -/
theorem cruise_of_no_room (hd : m.output.device = .working) {n : Nat}
    (hheld : m.output.bytes.size ≤ capacity)
    (hover : capacity < (m.cruise n).2.output.bytes.size) :
    ∃ k < n, IsLeast {k | capacity < (m.after (k + 1)).output.bytes.size} k ∧
      (∀ j ≤ k, ¬ m.Over j) ∧ (m.after k).piece ≠ [] ∧ ∃ s, (m.filling capacity cause).cruise n =
        (.failed (.output cause), (m.after k).cutOff s) ∧
        s.bytes.toList = (m.cruise n).2.output.bytes.toList.take capacity := by
  have haccepts := Sink.accepts_of_working hd
  obtain ⟨last, ⟨-, hlast⟩, hstate, -⟩ := cruise_stops n m
  rw [hstate] at hover ⊢
  obtain ⟨k, hkl, hk, hroom⟩ := exists_crossing haccepts hheld hover
  have hnotover : ∀ j ≤ k, ¬ m.Over j := by
    intro j hj hend
    have := hlast (.inl hend)
    omega
  have hkn : k < n := Nat.lt_of_lt_of_le hkl (hlast (.inr (Nat.le_refl n)))
  have hcrossing : capacity < (m.after k).step.2.output.bytes.size := by
    rw [← after_succ]
    exact hk.1
  refine ⟨k, hkn, hk, hnotover, piece_of_growth (Nat.lt_of_le_of_lt hroom hcrossing), ?_⟩
  have hdk : (m.after k).output.device = .working := (after_device k m).trans hd
  obtain ⟨s, hstep, hbytes⟩ := step_of_no_room cause hdk hroom hcrossing
  refine ⟨s, ?_, ?_⟩
  · have hbefore : (m.filling capacity cause).cruise k =
        (.spent, (m.after k).filling capacity cause) := by
      have hcruise := cruise_of_not_over hnotover
      rw [cruise_filling cause hd (by rw [hcruise]; exact hroom), hcruise]
    obtain ⟨rest, hrest⟩ : ∃ rest, n = k + (rest + 1) := ⟨n - k - 1, by omega⟩
    rw [hrest, cruise_add_of_spent hbefore, cruise_succ, hstep]
  · have hextends := after_extends haccepts (Nat.succ_le_of_lt hkl)
    have hlong : capacity ≤ (m.after (k + 1)).output.bytes.toList.length := by
      rw [Array.length_toList]
      exact Nat.le_of_lt hk.1
    obtain ⟨more, hmore⟩ := hextends
    rw [hbytes, ← after_succ, ← hmore, List.take_append_of_le_length hlong]

theorem settle_filling (hd : m.output.device = .working) (stop : Stop) :
    settle stop (m.filling capacity cause) =
      ((settle stop m).1, (settle stop m).2.filling capacity cause) := by
  have hflush : (m.filling capacity cause).output.flush.1 = none :=
    Sink.flush_unrefused fun _ _ => rfl
  rw [settle_of_flushed stop hflush, settle_of_flushed stop (Sink.flush_working hd)]
  rw [flush_eq, flush_eq, show (m.filling capacity cause).output = m.output.onto _ from rfl,
    Sink.flush_onto cause hd]
  rfl

section Run

variable {fuel : Nat} {result : Except Fault Outcome} {m' : Machine}
  (h : m.run fuel = some (result, m'))

include h

/-- The flush that ends a run writes nothing. -/
theorem run_bytes : m'.output.bytes = (m.cruise (m.allowance fuel)).2.output.bytes := by
  obtain ⟨-, hsettle⟩ := run_eq_some_iff.mp h
  have hlast : m' = (m.cruise (m.allowance fuel)).2.flush.2 := by
    rw [← settle_state, hsettle]
  rw [hlast, flush_eq]
  exact Sink.flush_bytes _

theorem run_filling (hd : m.output.device = .working) (hroom : m'.output.bytes.size ≤ capacity) :
    (m.filling capacity cause).run fuel = some (result, m'.filling capacity cause) := by
  rw [run_bytes h] at hroom
  obtain ⟨hspent, hsettle⟩ := run_eq_some_iff.mp h
  have hcruise := cruise_filling cause hd hroom
  have hdevice : (m.cruise (m.allowance fuel)).2.output.device = .working :=
    cruise_preserves (P := fun u => u.output.device = .working)
      (fun u hu => u.step_device.trans hu) _ hd
  have hallowed : (m.filling capacity cause).allowance fuel = m.allowance fuel := rfl
  rw [run_eq_some_iff, hallowed, hcruise, settle_filling cause hdevice, hsettle]
  exact ⟨hspent, rfl⟩

theorem run_of_no_room (hd : m.output.device = .working) (hheld : m.output.bytes.size ≤ capacity)
    (hover : capacity < m'.output.bytes.size) :
    ∃ k, IsLeast {k | capacity < (m.after (k + 1)).output.bytes.size} k ∧
      (∀ j ≤ k, ¬ m.Ended j) ∧ (m.after k).piece ≠ [] ∧
      ∃ s, (m.filling capacity cause).run fuel =
        some (.error (.output cause), (m.after k).cutOff s) ∧
        s.bytes.toList = m'.output.bytes.toList.take capacity := by
  rw [run_bytes h] at hover ⊢
  obtain ⟨k, hk, hfirst, hnotover, hpiece, s, hcruise, htaken⟩ :=
    cruise_of_no_room cause hd hheld hover
  have hallowed : (m.filling capacity cause).allowance fuel = m.allowance fuel := rfl
  refine ⟨k, hfirst, ?_, hpiece, s.flush.2, ?_, ?_⟩
  · intro j hj hended
    exact hnotover j hj (over_of_ended (Nat.lt_of_le_of_lt hj hk) hended)
  · rw [run_eq_some_iff, hallowed, hcruise, settle_failed, flush_eq]
    refine ⟨?_, rfl⟩
    intro _ hspent
    cases hspent
  · rw [Sink.flush_bytes]
    exact htaken

end Run

/-- A full sink loses what comes after, and nothing else. Either the run does not notice, or it
ends in the first step whose bytes do not fit, which counts and takes its word off the stack. -/
theorem full_sink_only_truncates (g : Grid) (s : Source) (capacity : Nat) (cause : String)
    (config : Config) (fuel : Nat) :
    let a := (start g s (.capped capacity cause)).configure config
    let b := (start g s .working).configure config
    (config.stepLimit ≠ none → (b.run fuel).isSome = true) ∧
    ∀ result b', b.run fuel = some (result, b') →
      ∃ result' a', a.run fuel = some (result', a') ∧
        a'.output.bytes.toList = b'.output.bytes.toList.take capacity ∧
        (b'.output.bytes.size ≤ capacity →
          result' = result ∧ a' = b'.filling capacity cause) ∧
        (capacity < b'.output.bytes.size →
          ∃ k, IsLeast {k | capacity < (b.after (k + 1)).output.bytes.size} k ∧
            (∀ j ≤ k, ¬ b.Ended j) ∧
            ((b.after k).cell = '.' ∨ (b.after k).cell = ',') ∧
            result' = .error (.output cause) ∧
            a' = { (b.after k).count with
              stack := (b.after k).stack.drop, output := a'.output }) := by
  intro a b
  constructor
  · intro hlimit
    obtain ⟨limit, hsome⟩ := Option.ne_none_iff_exists'.mp hlimit
    rw [run, show b.config.stepLimit = some limit from hsome]
    rfl
  · intro result b' h
    by_cases hroom : b'.output.bytes.size ≤ capacity
    · refine ⟨result, b'.filling capacity cause, run_filling cause h rfl hroom, ?_,
        fun _ => ⟨rfl, rfl⟩, fun hover => absurd hroom (Nat.not_le_of_lt hover)⟩
      rw [List.take_of_length_le hroom]
      rfl
    · obtain ⟨k, hfirst, hended, hpiece, s, hrun, htaken⟩ :=
        run_of_no_room cause h rfl (Nat.zero_le _) (Nat.lt_of_not_le hroom)
      exact ⟨.error (.output cause), (b.after k).cutOff s, hrun, htaken,
        fun hsmall => absurd hsmall hroom,
        fun _ => ⟨k, hfirst, hended, cell_of_piece hpiece, rfl, rfl⟩⟩

/-- Room for three bytes ends within a character, room for four is just enough. -/
theorem full_sink_only_truncates_within_character :
    let g := Grid.parse ".?,@".toList
    let s := Source.ofBytes [195, 169, 10]
    let run := fun capacity => ((start g s (.capped capacity "full")).configure
      ⟨some 9, false⟩).run 0
    (∃ a, run 3 = some (.error (.output "full"), a) ∧
      a.output.bytes.toList = [48, 10, 195] ∧ a.steps = 3 ∧ a.stack = {}) ∧
    ∃ a, run 4 = some (.ok (.halted 4), a) ∧ a.output.bytes.toList = [48, 10, 195, 169] := by
  intro g s run
  let b := (start g s .working).configure ⟨some 9, false⟩
  have hanswer : (b.run 0).map Prod.fst = some (.ok (.halted 4)) := by
    cbv
  obtain ⟨⟨result, b'⟩, hrun, rfl⟩ := Option.map_eq_some_iff.mp hanswer
  have hbytes : b'.output.bytes.toList = [48, 10, 195, 169] := by
    have hall : (b.run 0).map (fun p => p.2.output.bytes.toList) =
        some [48, 10, 195, 169] := by
      decide +kernel
    rw [hrun] at hall
    exact Option.some.inj hall
  have hsize : b'.output.bytes.size = 4 := by
    rw [← Array.length_toList, hbytes]
    rfl
  constructor
  · obtain ⟨-, hcapped⟩ := full_sink_only_truncates g s 3 "full" ⟨some 9, false⟩ 0
    obtain ⟨result, a, ha, htaken, -, hcrossed⟩ := hcapped _ b' hrun
    obtain ⟨k, ⟨hk, hleast⟩, -, -, rfl, hstate⟩ := hcrossed (by omega)
    have hgrown : ∀ j ≤ 2, 3 < (b.after (j + 1)).output.bytes.size ↔ j = 2 := by
      decide +kernel
    have htwo : k = 2 := by
      have hle : k ≤ 2 := hleast ((hgrown 2 (Nat.le_refl 2)).mpr rfl)
      exact (hgrown k hle).mp hk
    rw [hbytes] at htaken
    have hcut : (b.after 2).count.steps = 3 ∧ (b.after 2).stack.drop = {} := by
      decide +kernel
    rw [htwo] at hstate
    exact ⟨a, ha, htaken, (congrArg steps hstate).trans hcut.1,
      (congrArg stack hstate).trans hcut.2⟩
  · obtain ⟨-, hcapped⟩ := full_sink_only_truncates g s 4 "full" ⟨some 9, false⟩ 0
    obtain ⟨result, a, ha, htaken, hroom, -⟩ := hcapped _ b' hrun
    obtain ⟨rfl, -⟩ := hroom (by omega)
    rw [hbytes] at htaken
    exact ⟨a, ha, htaken⟩

end Machine

end Gridwalk
