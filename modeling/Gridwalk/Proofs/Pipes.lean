import Mathlib
import Gridwalk.Proofs.Decimals
import Gridwalk.Proofs.Pieces
import Gridwalk.Proofs.ReadingSteps

/-!
# Integers through a pipe

What a program prints as integers another program can read as integers. Each integer travels
on a line of its own, and it does not matter whether lines end with LF or with CR LF or whether
the last one ends at all.
-/
namespace Gridwalk

namespace Source

/-- The bytes of integers printed one after another. -/
def integerLines (vs : List Int64) : List UInt8 :=
  vs.flatMap fun v => Utf8.encode (Decimal.writeInt v.toInt ++ ['\n'])

def carriageReturn : UInt8 := 13

/-- Every LF becomes CR LF. -/
def withCarriageReturns (bytes : List UInt8) : List UInt8 :=
  bytes.flatMap fun b => if b = lineFeed then [carriageReturn, lineFeed] else [b]

/-- Integers one to a line, in bytes. Line ends may differ, and the last may be missing. -/
inductive Carries : List UInt8 → List Int64 → Prop where
  | nil : Carries [] []
  | line {bytes vs} (v : Int64) : Carries bytes vs →
      Carries (Utf8.encode (Decimal.writeInt v.toInt ++ ['\n']) ++ bytes) (v :: vs)
  | pair {bytes vs} (v : Int64) : Carries bytes vs →
      Carries (Utf8.encode (Decimal.writeInt v.toInt ++ ['\r', '\n']) ++ bytes) (v :: vs)
  | last (v : Int64) : Carries (Utf8.encode (Decimal.writeInt v.toInt)) [v]

theorem Carries.next {bytes : List UInt8} {v : Int64} {vs : List Int64}
    (h : Carries bytes (v :: vs)) :
    ∃ rest, (ofBytes bytes).readLine = (.ok (Decimal.writeInt v.toInt), ofBytes rest) ∧
      Carries rest vs := by
  have hbody : '\n' ∉ Decimal.writeInt v.toInt := Decimal.writeInt_oneLine v.toInt
  have hlast : ∀ c ∉ Decimal.glyphs, (Decimal.writeInt v.toInt).getLast? ≠ some c :=
    fun c hc hlast => hc (Decimal.mem_glyphs_of_mem_writeInt (List.mem_of_getLast? hlast))
  cases h with
  | @line bytes _ _ hrest =>
    refine ⟨bytes, ?_, hrest⟩
    rw [ofBytes_append]
    exact readLine_text (by simp) (gives_line hbody _) (.lf (hlast '\r' (by decide)))
  | @pair bytes _ _ hrest =>
    refine ⟨bytes, ?_, hrest⟩
    have hreturned : '\n' ∉ Decimal.writeInt v.toInt ++ ['\r'] :=
      OneLine.append (t := ['\r']) hbody (by decide)
    have hgives := gives_line hreturned (ofBytes bytes)
    rw [List.append_assoc, List.singleton_append] at hgives
    rw [ofBytes_append]
    exact readLine_text (by simp) hgives (.pair _)
  | last =>
    exact ⟨[], readLine_text Decimal.writeInt_ne_nil (gives_last hbody)
      (.last (hlast '\n' (by decide))), .nil⟩

theorem Carries.eq_nil {bytes : List UInt8} (h : Carries bytes []) : bytes = [] := by
  cases h
  rfl

theorem integerLines_cons (v : Int64) (vs : List Int64) :
    integerLines (v :: vs) =
      Utf8.encode (Decimal.writeInt v.toInt ++ ['\n']) ++ integerLines vs := rfl

theorem carries_integerLines (vs : List Int64) : Carries (integerLines vs) vs := by
  induction vs with
  | nil => exact .nil
  | cons v vs ih => exact .line v ih

theorem withCarriageReturns_line {body : List UInt8} (h : lineFeed ∉ body) :
    withCarriageReturns (body ++ [lineFeed]) = body ++ [carriageReturn, lineFeed] := by
  have hbody : withCarriageReturns body = body := by
    induction body with
    | nil => rfl
    | cons b body ih =>
      have hb : b ≠ lineFeed := (List.ne_of_not_mem_cons h).symm
      rw [withCarriageReturns, List.flatMap_cons, if_neg hb]
      exact congrArg (b :: ·) (ih (List.not_mem_of_not_mem_cons h))
  rw [withCarriageReturns, List.flatMap_append]
  exact congrArg (· ++ [carriageReturn, lineFeed]) hbody

theorem carries_withCarriageReturns (vs : List Int64) :
    Carries (withCarriageReturns (integerLines vs)) vs := by
  induction vs with
  | nil => exact .nil
  | cons v vs ih =>
    have hbody : lineFeed ∉ Utf8.encode (Decimal.writeInt v.toInt) :=
      Utf8.lineFeed_mem_encode.not.mpr (Decimal.writeInt_oneLine v.toInt)
    have hline := withCarriageReturns_line hbody
    have hpair : Utf8.encode (Decimal.writeInt v.toInt ++ ['\r', '\n']) =
        withCarriageReturns (Utf8.encode (Decimal.writeInt v.toInt ++ ['\n'])) := by
      rw [Utf8.encode_append, Utf8.encode_append]
      exact hline.symm
    have hsplit : withCarriageReturns (integerLines (v :: vs)) =
        Utf8.encode (Decimal.writeInt v.toInt ++ ['\r', '\n']) ++
          withCarriageReturns (integerLines vs) := by
      rw [hpair, integerLines_cons]
      exact List.flatMap_append
    rw [hsplit]
    exact .pair v ih

theorem integerLines_ne_nil {vs : List Int64} (h : vs ≠ []) : integerLines vs ≠ [] := by
  cases vs with
  | nil => exact absurd rfl h
  | cons v vs =>
    rw [integerLines_cons, Utf8.encode_append, List.append_assoc]
    exact List.append_ne_nil_of_right_ne_nil _
      (List.append_ne_nil_of_left_ne_nil (Utf8.encode_singleton_ne_nil '\n') _)

/-- Only the last line loses its end. -/
theorem carries_dropLast (vs : List Int64) : Carries (integerLines vs).dropLast vs := by
  induction vs with
  | nil => exact .nil
  | cons v vs ih =>
    rw [integerLines_cons]
    by_cases hvs : vs = []
    · have hopen : (Utf8.encode (Decimal.writeInt v.toInt ++ ['\n'])).dropLast =
          Utf8.encode (Decimal.writeInt v.toInt) := by
        rw [Utf8.encode_append]
        exact List.dropLast_concat
      have hnone : integerLines [] = [] := rfl
      rw [hvs, hnone, List.append_nil, hopen]
      exact .last v
    · rw [List.dropLast_append_of_ne_nil (integerLines_ne_nil hvs)]
      exact .line v ih

end Source

namespace Machine

/-- The next step executes the instruction that `c` stands for. -/
def Executes (c : Char) (m : Machine) : Prop := m.halted = false ∧ m.cell = c

instance (c : Char) : DecidablePred (Executes c) := fun m =>
  inferInstanceAs (Decidable (m.halted = false ∧ m.cell = c))

/-- The words that the first `n` steps pop to print them as integers. -/
def printed (m : Machine) (n : Nat) : List Int64 :=
  (List.range n).flatMap fun k => if (m.after k).Executes '.' then [(m.after k).stack.top] else []

/-- How many of the first `n` steps ask for an integer. -/
def asked (m : Machine) (n : Nat) : Nat :=
  (List.range n).countP fun k => (m.after k).Executes '~'

variable {m : Machine}

theorem asked_succ (n : Nat) :
    m.asked (n + 1) = m.asked n + if (m.after n).Executes '~' then 1 else 0 := by
  rw [asked, List.range_succ, List.countP_append, List.countP_singleton]
  simp [asked]

section Printing

theorem piece_of_not_character (h : ¬ m.Executes ',') :
    m.piece = Source.integerLines (if m.Executes '.' then [m.stack.top] else []) := by
  cases hm : m.halted with
  | true => simp [piece, hm, Executes, Source.integerLines]
  | false =>
    by_cases hdot : m.cell = '.'
    · simp [piece, hm, Executes, hdot, Source.integerLines, Instruction.decode]
    · have hcomma : m.cell ≠ ',' := fun hc => h ⟨hm, hc⟩
      have hwrites : ¬ (Instruction.decode m.cell = .writeInt ∨
          Instruction.decode m.cell = .writeChar) := by
        rw [Instruction.decode_writes_iff]
        exact not_or.mpr ⟨hdot, hcomma⟩
      rw [if_neg fun hexecutes => hdot hexecutes.2, piece, hm, if_neg Bool.false_ne_true]
      split
      · exact absurd (.inl (by assumption)) hwrites
      · exact absurd (.inr (by assumption)) hwrites
      · rfl

/-- Without characters in between, all that is written are the printed integers. -/
theorem written_eq_integerLines {n : Nat} (h : ∀ k < n, ¬ (m.after k).Executes ',') :
    m.written n = Source.integerLines (m.printed n) := by
  unfold written printed Source.integerLines
  rw [List.flatMap_assoc]
  apply List.flatMap_congr
  intro k hk
  exact piece_of_not_character (h k (List.mem_range.mp hk))

theorem step_of_printed (hm : m.halted = false) (hi : Instruction.decode m.cell = .writeInt)
    (hp : (m.output.publish
      (Utf8.encode (Decimal.writeInt m.stack.top.toInt ++ ['\n']))).1 = none) :
    m.step = (.ok .running, { m.count with
      stack := m.stack.drop
      output := (m.output.publish
        (Utf8.encode (Decimal.writeInt m.stack.top.toInt ++ ['\n']))).2 }.advance) := by
  have hexecute : m.count.execute (Instruction.decode m.cell) =
      (.ok (), { m.count with
        stack := m.stack.drop
        output := (m.output.publish
          (Utf8.encode (Decimal.writeInt m.stack.top.toInt ++ ['\n']))).2 }) := by
    rw [hi, execute_writeInt, emit, intText]
    dsimp only
    rw [publish_eq]
    exact Prod.ext (congrArg Fault.ofOutput hp) rfl
  exact step_of_done hm (by simp [hi]) hexecute

theorem step_writeInt (h : m.Executes '.') (hd : m.output.device = .working) :
    m.step.1 = .ok .running ∧ m.step.2.stack = m.stack.drop := by
  have hi : Instruction.decode m.cell = .writeInt := by rw [h.2]; rfl
  rw [step_of_printed h.1 hi (Sink.publish_working hd _)]
  exact ⟨rfl, rfl⟩

end Printing

section Reading

theorem asks_of_executes (h : m.Executes '~' ∨ m.Executes '?') : m.Asks := by
  rcases h with ⟨hm, hcell⟩ | ⟨hm, hcell⟩
  · exact ⟨hm, .inr hcell⟩
  · exact ⟨hm, .inl hcell⟩

theorem accepts_of_integer (h : m.Executes '~') : m.accepts = intWord :=
  if_neg (by rw [h.2]; decide)

theorem step_readInt (h : m.Executes '~') (hf : m.output.flush.1 = none) {v : Int64}
    {rest : Source} (hline : m.input.readLine = (.ok (Decimal.writeInt v.toInt), rest)) :
    m.step.1 = .ok .running ∧ m.step.2.stack = m.stack.push v ∧ m.step.2.input = rest := by
  obtain ⟨hreading, hrest⟩ := reading_of_line hline
  rw [accepts_of_integer h, intWord_writeInt] at hreading
  rw [step_of_accepted (asks_of_executes (.inl h)) hf hreading]
  exact ⟨rfl, rfl, hrest⟩

variable {bytes : List UInt8} {vs : List Int64}

/-- A step that reads an integer takes the first off those to come. -/
theorem step_carries (hf : m.output.flush.1 = none) (hquestion : ¬ m.Executes '?')
    (hinput : m.input = .ofBytes bytes) (h : Source.Carries bytes vs) :
    ∃ rest, m.step.2.input = .ofBytes rest ∧
      Source.Carries rest (vs.drop (if m.Executes '~' then 1 else 0)) := by
  by_cases hreads : m.Executes '~'
  · rw [if_pos hreads]
    cases vs with
    | nil =>
      have hnone : bytes = [] := h.eq_nil
      have heof : m.input = .eof := by
        rw [hinput, hnone]
        rfl
      have hrest := input_of_step_fed (step_fed_of_flushed (asks_of_executes (.inl hreads)) hf rfl)
      refine ⟨[], ?_, .nil⟩
      rw [hrest, heof]
      rfl
    | cons v vs =>
      obtain ⟨rest, hline, hcarries⟩ := h.next
      rw [← hinput] at hline
      exact ⟨rest, (step_readInt hreads hf hline).2.2, hcarries⟩
  · rw [if_neg hreads]
    refine ⟨bytes, ?_, h⟩
    have hsilent : ¬ m.Asks := by
      rintro ⟨hm, hcell | hcell⟩
      · exact hquestion ⟨hm, hcell⟩
      · exact hreads ⟨hm, hcell⟩
    rw [input_of_step_fed (step_fed_of_silent hsilent m.input), hinput]

theorem after_carries (hd : ∀ call held, m.output.device.refuseFlush call held = none) {n : Nat}
    (hquestion : ∀ k < n, ¬ (m.after k).Executes '?')
    (hinput : m.input = .ofBytes bytes) (h : Source.Carries bytes vs) :
    ∃ rest, (m.after n).input = .ofBytes rest ∧ Source.Carries rest (vs.drop (m.asked n)) := by
  induction n with
  | zero => exact ⟨bytes, hinput, h⟩
  | succ n ih =>
    obtain ⟨rest, hrest, hcarries⟩ := ih fun k hk => hquestion k (Nat.lt_succ_of_lt hk)
    obtain ⟨rest', hrest', hcarries'⟩ :=
      step_carries (after_flushed hd n) (hquestion n (Nat.lt_succ_self n)) hrest hcarries
    rw [List.drop_drop, ← asked_succ] at hcarries'
    rw [after_succ]
    exact ⟨rest', hrest', hcarries'⟩

end Reading

/-- What comes out of the pipe is what went in, for any two programs. The one that prints must
print no characters in between and the one that reads must read none. -/
theorem integers_survive_pipe (vs : List Int64) :
    (∀ (a : Machine) (n : Nat), a.output.device = .working → a.printed n = vs →
      (∀ k < n, ¬ (a.after k).Executes ',') →
      (∀ k < n, (a.after k).Executes '.' →
        (a.after k).step.1 = .ok .running ∧ (a.after (k + 1)).stack = (a.after k).stack.drop) ∧
      (a.after n).output.bytes.toList = a.output.bytes.toList ++ Source.integerLines vs) ∧
    ∀ bytes, bytes = Source.integerLines vs ∨
        bytes = Source.withCarriageReturns (Source.integerLines vs) ∨
        bytes = (Source.integerLines vs).dropLast →
      ∀ b : Machine, b.input = .ofBytes bytes →
        (∀ call held, b.output.device.refuseFlush call held = none) →
        ∀ n, (∀ k < n, ¬ (b.after k).Executes '?') →
          ((b.after n).Executes '~' → ∀ v, vs[b.asked n]? = some v →
            (b.after n).step.1 = .ok .running ∧
              (b.after (n + 1)).stack = (b.after n).stack.push v) ∧
          ((b.after n).Executes '~' ∨ (b.after n).Executes '?' → vs.length ≤ b.asked n →
            (b.after n).step.1 = .error (.inputExhausted (b.after n).cell)) := by
  constructor
  · intro a n hd hprinted hcomma
    refine ⟨fun k _ hdot => ?_, ?_⟩
    · rw [after_succ]
      exact step_writeInt hdot ((after_device k a).trans hd)
    · have haccepts : ∀ call held, a.output.device.refuse call held = none := by
        rw [hd]
        exact fun _ _ => rfl
      rw [after_bytes haccepts, written_eq_integerLines hcomma, hprinted]
  · intro bytes hbytes b hinput hd n hquestion
    have hcarries : Source.Carries bytes vs := by
      rcases hbytes with rfl | rfl | rfl
      · exact Source.carries_integerLines vs
      · exact Source.carries_withCarriageReturns vs
      · exact Source.carries_dropLast vs
    obtain ⟨rest, hrest, htocome⟩ := after_carries hd hquestion hinput hcarries
    have hflushed := after_flushed hd n
    refine ⟨fun hreads v hv => ?_, fun hasks hlength => ?_⟩
    · obtain ⟨hlt, hvalue⟩ := List.getElem?_eq_some_iff.mp hv
      rw [List.drop_eq_getElem_cons hlt, hvalue] at htocome
      obtain ⟨_, hline, -⟩ := htocome.next
      rw [← hrest] at hline
      obtain ⟨hanswer, hstack, -⟩ := step_readInt hreads hflushed hline
      rw [after_succ]
      exact ⟨hanswer, hstack⟩
    · rw [List.drop_eq_nil_of_le hlength] at htocome
      have heof : (b.after n).input = .eof := by
        rw [hrest, htocome.eq_nil]
        rfl
      exact step_of_eof (asks_of_executes hasks) hflushed heof

/-- The ends of the range, over lines that end with CR LF. -/
theorem integers_survive_pipe_at_range_ends :
    let a := { start (Grid.parse "..".toList) .eof .working with
      stack := ⟨[Int64.minValue, Int64.maxValue]⟩ }
    let b := start (Grid.parse "~~?".toList)
      (.ofBytes (Source.withCarriageReturns (a.after 2).output.bytes.toList)) .working
    (b.after 2).stack = ⟨[Int64.maxValue, Int64.minValue]⟩ ∧
      (b.after 2).step.1 = .error (.inputExhausted '?') := by
  intro a b
  obtain ⟨hsent, hreceived⟩ := integers_survive_pipe [Int64.minValue, Int64.maxValue]
  obtain ⟨-, hbytes⟩ := hsent a 2 rfl (by decide) (by decide)
  have hinput : b.input = .ofBytes (Source.withCarriageReturns
      (Source.integerLines [Int64.minValue, Int64.maxValue])) := by
    dsimp only [b, start]
    rw [hbytes]
    rfl
  have hreads := hreceived _ (.inr (.inl rfl)) b hinput fun _ _ => rfl
  obtain ⟨-, hfirst⟩ := (hreads 0 nofun).1 (by decide) Int64.minValue rfl
  obtain ⟨-, hsecond⟩ := (hreads 1 (by decide +kernel)).1 (by decide +kernel) Int64.maxValue
    (by decide +kernel)
  have hthird := (hreads 2 (by decide +kernel)).2 (.inr (by decide +kernel)) (by decide +kernel)
  have hcell : (b.after 2).cell = '?' := by decide +kernel
  rw [hcell] at hthird
  rw [hsecond, hfirst]
  exact ⟨rfl, hthird⟩

end Machine

end Gridwalk
