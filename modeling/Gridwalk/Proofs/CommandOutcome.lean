import Mathlib
import Gridwalk.Proofs.Endings
import Gridwalk.Proofs.OneLine

/-!
# What decides the outcome of the command

An unreadable program and a listing leave nothing to decide. Otherwise the first step that
halts or fails, or the step limit if it is used up before, decides the exit status, and output
is what the steps up to there wrote.
-/
namespace Gridwalk

theorem Instruction.decode_eq_halt {c : Char} : decode c = .halt ↔ c = '@' :=
  decode_eq_iff (by simp) c

namespace Fault

/-- Input that is missing, unfit or unreadable. -/
def concernsInput : Fault → Bool
  | inputExhausted _ | emptyCharInput | malformedInteger .. | input _ => true
  | _ => false

def concernsOutput : Fault → Bool
  | invalidCodePoint _ | output _ => true
  | _ => false

theorem exitStatus_eq_three (f : Fault) : f.exitStatus = 3 ↔ f.concernsInput = true := by
  cases f with
  | inputExhausted | emptyCharInput | malformedInteger | input => exact iff_of_true rfl rfl
  | _ => exact iff_of_false nofun nofun

theorem exitStatus_eq_four (f : Fault) : f.exitStatus = 4 ↔ f.concernsOutput = true := by
  cases f with
  | invalidCodePoint | output => exact iff_of_true rfl rfl
  | _ => exact iff_of_false nofun nofun

theorem exitStatus_ne_zero (f : Fault) : f.exitStatus ≠ 0 := by
  cases f <;> nofun

end Fault

namespace Machine

/-- The `n`-th step, counted from one, executed `@`. -/
def HaltsAt (m : Machine) : Nat → Prop
  | 0 => False
  | k + 1 => (m.after k).halted = false ∧ (m.after k).cell = '@'

def SpentAt (m : Machine) (n : Nat) : Prop := m.LimitReached n ∧ ¬ m.Over n

variable {m : Machine}

theorem Trouble.concerns {f : Fault} (h : m.Trouble f) :
    f.concernsInput = true ∨ f.concernsOutput = true := by
  cases h with
  | output => exact .inr rfl
  | @line fault =>
    cases fault <;> exact .inl rfl
  | emptyLine => exact .inl rfl
  | notInteger => exact .inl rfl
  | noCharacter => exact .inr rfl

theorem FailedAt.concerns {n : Nat} {f : Fault} (h : m.FailedAt n f) :
    f.concernsInput = true ∨ f.concernsOutput = true := by
  cases n with
  | zero => exact h.elim
  | succ k => exact (step_trouble h).concerns

/-- Only `@` halts a machine. -/
theorem step_halted_iff (hm : m.halted = false) : m.step.2.halted = true ↔ m.cell = '@' := by
  rw [← Instruction.decode_eq_halt]
  constructor
  · intro h
    have ht := m.step_taken
    generalize m.step.1 = answer, m.step.2 = m' at ht h
    cases ht with
    | idle hm' => exact absurd (hm.symm.trans hm') (by simp)
    | halt _ hi => exact hi
    | fail _ _ he => exact absurd (h.symm.trans ((execute_setting he).halted.trans hm)) (by simp)
    | move _ _ he => exact absurd (h.symm.trans ((execute_setting he).halted.trans hm)) (by simp)
  · intro hi
    rw [step_of_halt hm hi]

theorem haltsAt_iff {n : Nat} (hm : m.halted = false) (hn : IsLeast {k | m.Ended k} n) :
    m.HaltsAt n ↔ (m.after n).halted = true := by
  cases n with
  | zero =>
    constructor
    · exact False.elim
    · intro h
      exact absurd (hm.symm.trans h) (by simp)
  | succ k =>
    have hawake : (m.after k).halted = false := by
      cases hk : (m.after k).halted with
      | false => rfl
      | true => exact absurd (hn.2 (.inl (.inl hk))) (Nat.not_succ_le_self k)
    rw [after_succ, step_halted_iff hawake]
    constructor
    · exact fun h => h.2
    · exact fun h => ⟨hawake, h⟩

theorem step_journal (ht : m.config.trace = false) : m.step.2.journal = m.journal := by
  cases hm : m.halted with
  | true => rw [step_of_halted hm]
  | false =>
    rw [journal_of_awake hm]
    simp [count, ht]

theorem after_journal (ht : m.config.trace = false) (n : Nat) :
    (m.after n).journal = m.journal := by
  have key := after_preserves
    (P := fun u => u.config.trace = false ∧ u.journal = m.journal) ?_ n ⟨ht, rfl⟩
  · exact key.2
  · intro u hu
    exact ⟨u.step_config ▸ hu.1, (step_journal hu.1).trans hu.2⟩

section Working

variable (hd : m.output.device = .working)

include hd

theorem after_flushes (n : Nat) : (m.after n).output.flush.1 = none := by
  apply after_flushed
  rw [hd]
  exact fun _ _ => rfl

theorem after_piece (k : Nat) :
    (m.after (k + 1)).output.bytes.toList =
      (m.after k).output.bytes.toList ++ (m.after k).piece := by
  rw [after_succ]
  apply step_bytes
  rw [after_device, hd]
  exact fun _ _ => rfl

end Working

theorem EndsAfter.received {n : Nat} {result : Except Fault Outcome} {m' : Machine}
    (hends : m.EndsAfter n result m') (hd : m.output.device = .working) :
    m'.output.received = m.output.bytes.toList ++ m.written n := by
  have haccepts : ∀ call held, m.output.device.refuse call held = none := by
    rw [hd]
    exact fun _ _ => rfl
  rw [hends.state, flush_eq]
  change (m.after n).output.flush.2.received = _
  rw [Sink.received_flush (after_flushes hd n), after_bytes haccepts]

/-- On a working output nothing but the step itself tells how a run ends. -/
theorem EndsAfter.result_cases {n : Nat} {result : Except Fault Outcome} {m' : Machine}
    (hends : m.EndsAfter n result m') (hm : m.halted = false)
    (hd : m.output.device = .working) :
    (m.HaltsAt n ∧ result = .ok (.halted m'.steps)) ∨
    (m.SpentAt n ∧ result = .ok (.stepLimit m'.steps)) ∨
    ∃ f, m.FailedAt n f ∧ result = .error f := by
  have hflush := after_flushes hd n
  by_cases hfailed : ∃ f, m.FailedAt n f
  · obtain ⟨f, hf⟩ := hfailed
    exact .inr (.inr ⟨f, hf, hends.failed f hf⟩)
  · have hnone := not_exists.mp hfailed
    cases hstate : (m.after n).halted with
    | true =>
      have hhalt := (haltsAt_iff hm hends.first).mpr hstate
      exact .inl ⟨hhalt, hends.halted hnone hflush hstate⟩
    | false =>
      have hover : ¬ m.Over n := by
        rintro (h | hf)
        · exact absurd (hstate.symm.trans h) (by simp)
        · exact hfailed hf
      have hlimit := hends.first.1.resolve_left hover
      exact .inr (.inl ⟨⟨hlimit, hover⟩, hends.stopped hnone hflush hstate⟩)

theorem after_speaksPlainly (h : m.SpeaksPlainly) (n : Nat) : (m.after n).SpeaksPlainly :=
  after_preserves (P := SpeaksPlainly) (fun _ => step_speaksPlainly) n h

end Machine

namespace Command

/-- How a run is told whose first terminal event comes after `n` steps. -/
structure Decided (m : Machine) (n : Nat) (r : Report) : Prop where
  first : IsLeast {k | m.Ended k} n
  event : m.HaltsAt n ∨ m.SpentAt n ∨ ∃ f, m.FailedAt n f
  halted : r.status = 0 ↔ m.HaltsAt n
  spent : r.status = 5 ↔ m.SpentAt n
  input : r.status = 3 ↔ ∃ f, m.FailedAt n f ∧ f.concernsInput = true
  output : r.status = 4 ↔ ∃ f, m.FailedAt n f ∧ f.concernsOutput = true
  wrote : ∀ k < n, (m.after (k + 1)).output.bytes.toList =
    (m.after k).output.bytes.toList ++ (m.after k).piece
  written : r.output = m.written n

theorem Decided.status_known {m : Machine} {n : Nat} {r : Report} (h : Decided m n r) :
    r.status = 0 ∨ r.status = 3 ∨ r.status = 4 ∨ r.status = 5 := by
  rcases h.event with hhalt | hspent | ⟨f, hf⟩
  · exact .inl (h.halted.mpr hhalt)
  · exact .inr (.inr (.inr (h.spent.mpr hspent)))
  · rcases hf.concerns with hinput | houtput
    · exact .inr (.inl (h.input.mpr ⟨f, hf, hinput⟩))
    · exact .inr (.inr (.inl (h.output.mpr ⟨f, hf, houtput⟩)))

/-- Silence for success, and for everything else one line that says whose complaint it is. -/
structure Plain (r : Report) : Prop where
  silent : r.messages = [] ↔ r.status = 0
  line : r.status ≠ 0 →
    ∃ text, OneLine text ∧ r.messages = "zerostack2d: ".toList ++ text ++ ['\n']

/-- Path and system, which the command only quotes, do not break lines. -/
structure PlainWords (s : Surroundings) (program : String) : Prop where
  path : OneLine program.toList
  files : ∀ cause, s.files program = .error cause → OneLine cause.toList
  input : ∀ cause ∈ s.input.causes, OneLine cause.toList

theorem plain_notice {status : Nat} {text output} (hs : status ≠ 0) (h : OneLine text) :
    Plain ⟨status, output, notice text⟩ := by
  constructor
  · constructor
    · intro hnil
      simp [notice] at hnil
    · exact fun hzero => absurd hzero hs
  · exact fun _ => ⟨text, h, rfl⟩

theorem plain_faultNotice {f : Fault} {output} (h : ∀ t ∈ f.rawTexts, OneLine t) :
    Plain ⟨f.exitStatus, output, faultNotice f⟩ := by
  apply plain_notice
  · exact f.exitStatus_ne_zero
  · exact Fault.report_oneLine h

theorem limitNotice_oneLine (steps : Nat) :
    OneLine ("step limit of ".toList ++ Decimal.writeNat steps ++
      " reached before halt".toList) := by
  apply OneLine.append
  · apply OneLine.append
    · decide +kernel
    · exact Decimal.writeNat_oneLine steps
  · decide +kernel

theorem load_error {files : String → Except String (List UInt8)} {path : String} {f : Fault}
    (h : load files path = .error f) :
    ∃ cause, f = .unreadableProgram path cause ∧
      (files path = .error cause ∨ cause = Utf8.invalid) := by
  unfold load at h
  cases hf : files path with
  | error cause =>
    rw [hf] at h
    cases h
    exact ⟨cause, rfl, .inl rfl⟩
  | ok bytes =>
    rw [hf] at h
    dsimp only at h
    cases hd : Utf8.decode bytes with
    | none =>
      rw [hd] at h
      cases h
      exact ⟨Utf8.invalid, rfl, .inr rfl⟩
    | some text =>
      rw [hd] at h
      cases h

theorem list_working (grid : Grid) :
    list grid .working = ⟨0, Utf8.encode (Listing.disassemble grid), []⟩ := by
  have haccepts : ∀ call held, ({ device := .working } : Sink).device.refuse call held = none :=
    fun _ _ => rfl
  unfold list
  rw [Sink.publish_accepted haccepts]
  simp [Sink.flush, Sink.received, Device.working]

theorem report_messages {o : Options} {m m' : Machine} {n : Nat}
    {result : Except Fault Outcome} (hends : m.EndsAfter n result m') (readings : Readings)
    (hempty : m.journal = #[]) (htrace : m.config.trace = false) (hstats : o.stats = false) :
    (report o readings result m').messages = (verdict result).2 := by
  have hjournal : m'.journal = #[] := by
    rw [hends.state, (Machine.flush_heading _).journal, Machine.after_journal htrace, hempty]
  simp [report, hjournal, hstats, journalText]

section Run

variable {m m' : Machine} {n : Nat} {result : Except Fault Outcome}
  (hm : m.halted = false) (hd : m.output.device = .working) (hends : m.EndsAfter n result m')

include hm hd hends

theorem report_decided (hempty : m.output.bytes = #[]) (o : Options) (readings : Readings) :
    Decided m n (report o readings result m') := by
  have hhalts := Machine.haltsAt_iff hm hends.first
  have hwrote := fun k (_ : k < n) => Machine.after_piece hd k
  have hwritten := hends.received hd
  rw [hempty, Array.toList_empty, List.nil_append] at hwritten
  -- The three events exclude each other, so each status belongs to one of them only.
  have halt_or_fail : m.HaltsAt n → ∀ f, ¬ m.FailedAt n f := by
    intro hhalt f hf
    exact absurd (hf.awake.symm.trans (hhalts.mp hhalt)) (by simp)
  rcases hends.result_cases hm hd with ⟨hhalt, rfl⟩ | ⟨hspent, rfl⟩ | ⟨f, hf, rfl⟩
  · have hnone := halt_or_fail hhalt
    refine ⟨hends.first, .inl hhalt, iff_of_true rfl hhalt, iff_of_false nofun ?_,
      iff_of_false nofun ?_, iff_of_false nofun ?_, hwrote, hwritten⟩
    · intro hspent
      exact hspent.2 (.inl (hhalts.mp hhalt))
    · rintro ⟨f, hf, -⟩
      exact hnone f hf
    · rintro ⟨f, hf, -⟩
      exact hnone f hf
  · refine ⟨hends.first, .inr (.inl hspent), iff_of_false nofun ?_, iff_of_true rfl hspent,
      iff_of_false nofun ?_, iff_of_false nofun ?_, hwrote, hwritten⟩
    · intro hhalt
      exact hspent.2 (.inl (hhalts.mp hhalt))
    · rintro ⟨f, hf, -⟩
      exact hspent.2 (.inr ⟨f, hf⟩)
    · rintro ⟨f, hf, -⟩
      exact hspent.2 (.inr ⟨f, hf⟩)
  · have hthis : ∀ P : Fault → Prop, (∃ g, m.FailedAt n g ∧ P g) ↔ P f := by
      intro P
      constructor
      · rintro ⟨g, hg, hP⟩
        rwa [hf.unique hg]
      · exact fun hP => ⟨f, hf, hP⟩
    refine ⟨hends.first, .inr (.inr ⟨f, hf⟩), iff_of_false f.exitStatus_ne_zero ?_,
      iff_of_false ?_ ?_, ?_, ?_, hwrote, hwritten⟩
    · exact fun hhalt => halt_or_fail hhalt f hf
    · cases f <;> nofun
    · exact fun hspent => hspent.2 (.inr ⟨f, hf⟩)
    · rw [hthis]
      exact f.exitStatus_eq_three
    · rw [hthis]
      exact f.exitStatus_eq_four

theorem report_plain {o : Options} (readings : Readings) (hempty : m.journal = #[])
    (htrace : m.config.trace = false) (hstats : o.stats = false) (hplain : m.SpeaksPlainly) :
    Plain (report o readings result m') := by
  have hreport : report o readings result m' =
      ⟨(verdict result).1, m'.output.received, (verdict result).2⟩ := by
    rw [← report_messages hends readings hempty htrace hstats]
    rfl
  rw [hreport]
  rcases hends.result_cases hm hd with ⟨-, rfl⟩ | ⟨-, rfl⟩ | ⟨f, hf, rfl⟩
  · exact ⟨iff_of_true rfl rfl, fun h => absurd rfl h⟩
  · exact plain_notice nofun (limitNotice_oneLine _)
  · cases n with
    | zero => exact hf.elim
    | succ k =>
      have hafter := Machine.after_speaksPlainly hplain k
      have hdevice := (Machine.after_device k m).trans hd
      exact plain_faultNotice (Machine.step_rawTexts hafter hdevice hf)

end Run

theorem load_error_plain {s : Surroundings} {program : String} {f : Fault}
    (hwords : PlainWords s program) (h : load s.files program = .error f) :
    ∀ t ∈ f.rawTexts, OneLine t := by
  obtain ⟨cause, rfl, hcause⟩ := load_error h
  intro t ht
  rcases List.mem_cons.mp ht with rfl | ht
  · exact hwords.path
  · rw [List.mem_singleton.mp ht]
    rcases hcause with hcause | rfl
    · exact hwords.files cause hcause
    · decide +kernel

theorem invoke_program {fuel : Nat} {s : Surroundings} {args : List String} {o : Options}
    {program : String} (hargs : Options.parse args = .proceed o)
    (hprogram : o.program = some program) :
    invoke fuel s args =
      match load s.files program with
      | .error f => some ⟨f.exitStatus, [], faultNotice f⟩
      | .ok grid =>
        if o.disassemble then some (list grid s.output)
        else ((machine o grid s.input s.output).run fuel).map fun (result, m) =>
          report o s.readings result m := by
  obtain ⟨_, stepLimit, trace, stats, disassemble⟩ := o
  cases hprogram
  simp only [invoke, hargs]
  rfl

/-- For every program, input and choice of options, on an output that accepts everything. -/
theorem outcome_decided_by_first_event {fuel : Nat} {s : Surroundings} {args : List String}
    {o : Options} {program : String} {r : Report} (hargs : Options.parse args = .proceed o)
    (hprogram : o.program = some program) (hworking : s.output = .working)
    (hdone : invoke fuel s args = some r) :
    (r.status = 1 ↔ ∃ f, load s.files program = .error f) ∧ (r.status = 1 → r.output = []) ∧
    (∀ grid, load s.files program = .ok grid →
      (o.disassemble = true → r = ⟨0, Utf8.encode (Listing.disassemble grid), []⟩) ∧
      (o.disassemble = false → ∃ n, Decided (machine o grid s.input s.output) n r)) ∧
    (o.trace = false → o.stats = false → PlainWords s program → Plain r) := by
  rw [invoke_program hargs hprogram, hworking] at hdone
  rw [hworking]
  cases hload : load s.files program with
  | error f =>
    rw [hload] at hdone
    cases hdone
    obtain ⟨cause, rfl, -⟩ := load_error hload
    refine ⟨iff_of_true rfl ⟨_, rfl⟩, fun _ => rfl, nofun, ?_⟩
    intro _ _ hwords
    exact plain_faultNotice (load_error_plain hwords hload)
  | ok grid =>
    rw [hload] at hdone
    dsimp only at hdone
    cases hlist : o.disassemble with
    | true =>
      rw [hlist, if_pos rfl, list_working] at hdone
      cases hdone
      refine ⟨iff_of_false nofun nofun, nofun, ?_, ?_⟩
      · intro grid' hgrid
        cases hgrid
        exact ⟨fun _ => rfl, nofun⟩
      · intro _ _ _
        exact ⟨iff_of_true rfl rfl, fun h => absurd rfl h⟩
    | false =>
      rw [hlist, if_neg Bool.false_ne_true] at hdone
      obtain ⟨⟨result, m'⟩, hrun, rfl⟩ := Option.map_eq_some_iff.mp hdone
      obtain ⟨n, hends⟩ := Machine.run_endsAfter hrun
      have hdecided := report_decided rfl rfl hends rfl o s.readings
      have hone : (report o s.readings result m').status ≠ 1 := by
        rcases hdecided.status_known with h | h | h | h <;> omega
      refine ⟨iff_of_false hone nofun, fun h => absurd h hone, ?_, ?_⟩
      · intro grid' hgrid
        cases hgrid
        exact ⟨nofun, fun _ => ⟨n, hdecided⟩⟩
      · intro htrace hstats hwords
        exact report_plain rfl rfl hends s.readings rfl htrace hstats hwords.input

/-- The program prints `1` and then meets a line that is no integer. -/
theorem outcome_decided_by_malformed_line :
    let s : Surroundings :=
      { files := fun path =>
          if path = "p" then .ok (Utf8.encode "+.~@".toList) else .error "not found"
        input := Source.ofBytes [120, 13, 13, 10], output := .working, readings := ⟨[], []⟩ }
    ∃ r, invoke 9 s ["p"] = some r ∧ r.output = [49, 10] ∧
      (∃ grid n f, (machine { program := some "p" } grid s.input s.output).FailedAt n f ∧
        f.concernsInput = true) ∧
      ∃ text, OneLine text ∧ r.messages = "zerostack2d: ".toList ++ text ++ ['\n'] := by
  intro s
  have hends : (invoke 9 s ["p"]).map (fun r => (r.status, r.output)) = some (3, [49, 10]) := by
    decide +kernel
  have hload : (load s.files "p").toBool = true := by decide +kernel
  have hwords : PlainWords s "p" := by
    refine ⟨by decide, ?_, ?_⟩
    · intro cause hcause
      cases hcause
    · intro cause hcause
      cases hcause
  obtain ⟨r, hdone, hr⟩ := Option.map_eq_some_iff.mp hends
  simp only [Prod.mk.injEq] at hr
  have hargs : Options.parse ["p"] = .proceed { program := some "p" } := by decide +kernel
  obtain ⟨-, -, hgrid, hplain⟩ := outcome_decided_by_first_event hargs rfl rfl hdone
  refine ⟨r, hdone, hr.2, ?_, (hplain rfl rfl hwords).line (by omega)⟩
  cases hgridload : load s.files "p" with
  | error f =>
    rw [hgridload] at hload
    cases hload
  | ok grid =>
    obtain ⟨n, hdecided⟩ := (hgrid grid hgridload).2 rfl
    obtain ⟨f, hf⟩ := hdecided.input.mp hr.1
    exact ⟨grid, n, f, hf⟩

end Command

end Gridwalk
