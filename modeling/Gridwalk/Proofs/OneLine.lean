import Mathlib
import Gridwalk.Command
import Gridwalk.Proofs.Lines
import Gridwalk.Proofs.Pieces

/-!
# Reports on one line

A report shows input lines quoted and numbers in digits. Only paths, the words of the system
and the instruction character stand in it as they are, so a line end could only come in there.
-/
namespace Gridwalk

def OneLine (text : List Char) : Prop := '\n' ∉ text

instance (text : List Char) : Decidable (OneLine text) :=
  inferInstanceAs (Decidable ('\n' ∉ text))

theorem OneLine.append {s t : List Char} (hs : OneLine s) (ht : OneLine t) : OneLine (s ++ t) := by
  intro h
  rcases List.mem_append.mp h with h | h
  · exact hs h
  · exact ht h

theorem OneLine.intercalate {sep : List Char} (hsep : OneLine sep) {texts : List (List Char)}
    (h : ∀ t ∈ texts, OneLine t) : OneLine (sep.intercalate texts) := by
  induction texts with
  | nil => simp [OneLine]
  | cons t rest ih =>
    cases rest with
    | nil => simpa using h t (by simp)
    | cons u rest =>
      rw [List.intercalate_cons_cons]
      refine ((h t (by simp)).append hsep).append (ih ?_)
      intro v hv
      exact h v (List.mem_cons_of_mem t hv)

theorem exists_of_mem_toDigits {base : Nat} (hbase : 1 < base) {n : Nat} {c : Char}
    (h : c ∈ Nat.toDigits base n) : ∃ d < base, c = Nat.digitChar d := by
  induction n using Nat.strong_induction_on with
  | h n ih =>
    rw [Nat.toDigits_eq_if hbase] at h
    split at h
    · exact ⟨n, by assumption, List.mem_singleton.mp h⟩
    · rcases List.mem_append.mp h with h | h
      · exact ih (n / base) (Nat.div_lt_self (by omega) hbase) h
      · exact ⟨n % base, Nat.mod_lt _ (by omega), List.mem_singleton.mp h⟩

theorem oneLine_toDigits {base : Nat} (hbase : 1 < base) (hsmall : base ≤ 16) (n : Nat) :
    OneLine (Nat.toDigits base n) := by
  have digit : ∀ d < 16, '\n' ≠ Nat.digitChar d := by decide
  intro h
  obtain ⟨d, hd, hc⟩ := exists_of_mem_toDigits hbase h
  exact digit d (Nat.lt_of_lt_of_le hd hsmall) hc

theorem Decimal.writeNat_oneLine (n : Nat) : OneLine (writeNat n) :=
  oneLine_toDigits (by decide) (by decide) n

theorem Decimal.writeInt_oneLine (n : Int) : OneLine (writeInt n) := by
  unfold writeInt
  split
  · exact OneLine.append (s := ['-']) (by decide) (writeNat_oneLine _)
  · exact writeNat_oneLine _

theorem Quoted.escape_oneLine (quote c : Char) : OneLine (escape quote c) := by
  unfold escape
  split
  · decide
  · decide
  · decide
  · decide
  · decide
  · rename_i hc _
    have hplain : OneLine [c] := fun h => hc (List.mem_singleton.mp h).symm
    split
    · exact OneLine.append (s := ['\\']) (by decide) hplain
    · split
      · exact hplain
      · refine OneLine.append (OneLine.append ?_ (oneLine_toDigits (by decide) (by decide) _)) ?_ <;>
          decide

theorem Quoted.text_oneLine (chars : List Char) : OneLine (text chars) := by
  have hbody : OneLine (chars.flatMap (escape '"')) := by
    intro h
    obtain ⟨c, -, hc⟩ := List.mem_flatMap.mp h
    exact escape_oneLine '"' c hc
  exact (OneLine.append (s := ['"']) (by decide) hbody).append (by decide)

theorem Quoted.char_oneLine (c : Char) : OneLine (char c) :=
  (OneLine.append (s := ['\'']) (by decide) (escape_oneLine '\'' c)).append (by decide)

namespace Fault

/-- The texts that a report shows as they are. -/
def rawTexts : Fault → List (List Char)
  | unreadableProgram path cause => [path.toList, cause.toList]
  | inputExhausted instruction => [[instruction]]
  | input cause => [cause.toList]
  | output cause => [cause.toList]
  | _ => []

theorem message_oneLine {f : Fault} (h : ∀ t ∈ f.rawTexts, OneLine t) :
    OneLine f.message.toList := by
  cases f with
  | unreadableProgram path cause =>
    have hpath : OneLine path.toList := h _ (by simp [rawTexts])
    change OneLine ("cannot read program file " ++ path).toList
    rw [String.toList_append]
    refine OneLine.append ?_ hpath
    decide +kernel
  | inputExhausted instruction =>
    have hcell : OneLine [instruction] := h _ (by simp [rawTexts])
    change OneLine
      ("input exhausted while executing '" ++ String.singleton instruction ++ "'").toList
    rw [String.toList_append, String.toList_append, String.toList_singleton]
    refine OneLine.append (OneLine.append ?_ hcell) ?_
    · decide +kernel
    · decide +kernel
  | emptyCharInput => decide +kernel
  | malformedInteger line cause =>
    have hline : OneLine (String.ofList (Quoted.text line)).toList := by
      rw [String.toList_ofList]
      exact Quoted.text_oneLine line
    change OneLine ("malformed integer input " ++ String.ofList (Quoted.text line)).toList
    rw [String.toList_append]
    refine OneLine.append ?_ hline
    decide +kernel
  | invalidCodePoint value =>
    have hvalue : OneLine (String.ofList (Decimal.writeInt value.toInt)).toList := by
      rw [String.toList_ofList]
      exact Decimal.writeInt_oneLine value.toInt
    change OneLine ("value " ++ String.ofList (Decimal.writeInt value.toInt) ++
      " is not a valid character code point").toList
    rw [String.toList_append, String.toList_append]
    refine OneLine.append (OneLine.append ?_ hvalue) ?_
    · decide +kernel
    · decide +kernel
  | input cause =>
    change OneLine "failed to read standard input".toList
    decide +kernel
  | output cause =>
    change OneLine "failed to write standard output".toList
    decide +kernel

theorem causes_oneLine {f : Fault} (h : ∀ t ∈ f.rawTexts, OneLine t) :
    ∀ cause ∈ f.causes, OneLine cause.toList := by
  intro cause hcause
  cases f with
  | unreadableProgram path text =>
    rw [List.mem_singleton.mp hcause]
    exact h _ (by simp [rawTexts])
  | malformedInteger line fault =>
    rw [List.mem_singleton.mp hcause]
    cases fault <;> decide
  | input text =>
    rw [List.mem_singleton.mp hcause]
    exact h _ (by simp [rawTexts])
  | output text =>
    rw [List.mem_singleton.mp hcause]
    exact h _ (by simp [rawTexts])
  | _ => simp [causes] at hcause

theorem report_oneLine {f : Fault} (h : ∀ t ∈ f.rawTexts, OneLine t) :
    OneLine f.report.toList := by
  have hmessage := message_oneLine h
  have hcauses := causes_oneLine h
  unfold report
  rw [String.toList_intercalate]
  refine OneLine.intercalate (by decide) ?_
  intro t ht
  obtain ⟨text, htext, rfl⟩ := List.mem_map.mp ht
  rcases List.mem_cons.mp htext with rfl | htext
  · exact hmessage
  · exact hcauses text htext

end Fault

namespace Source

/-- The words with which reading from a source can fail. -/
def causes : Source → List String
  | eof => []
  | broken cause => [cause]
  | byte _ rest => rest.causes
  | fault cause rest => cause :: rest.causes

theorem takeLine_causes (s : Source) :
    (∀ cause, s.takeLine.2.1 = some cause → cause ∈ s.causes) ∧
    (∀ cause ∈ s.takeLine.2.2.causes, cause ∈ s.causes) := by
  induction s with
  | eof => simp [takeLine, causes]
  | broken cause => simp [takeLine, causes]
  | byte b rest ih =>
    by_cases hb : b = lineFeed
    · simp [takeLine, causes, hb]
    · simpa [takeLine, causes, hb] using ih
  | fault cause rest =>
    constructor
    · simp [takeLine, causes]
    · intro c hc
      exact List.mem_cons_of_mem cause hc

theorem readLine_rest (s : Source) : s.readLine.2 = s.takeLine.2.2 := by
  rw [s.takeLine_gives.readLine]

theorem readLine_cause {s : Source} {cause : String}
    (h : s.readLine.1 = .error (.device cause)) : cause ∈ s.causes := by
  apply s.takeLine_causes.1
  rw [s.takeLine_gives.readLine] at h
  exact eq_some_of_device h

end Source

namespace Machine

variable {m : Machine}

/-- Whatever a source can say about its failures fits on one line. -/
def SpeaksPlainly (m : Machine) : Prop := ∀ cause ∈ m.input.causes, OneLine cause.toList

theorem step_speaksPlainly (h : m.SpeaksPlainly) : m.step.2.SpeaksPlainly := by
  intro cause hcause
  apply h
  rcases m.step_input with hinput | hinput
  · rwa [hinput] at hcause
  · rw [hinput, Source.readLine_rest] at hcause
    exact m.input.takeLine_causes.2 cause hcause

/-- On a working output the fault of a step shows nothing raw but the words of the source and
one of the two characters that read. -/
theorem step_rawTexts (h : m.SpeaksPlainly) (hd : m.output.device = .working) {f : Fault}
    (hstep : m.step.1 = .error f) : ∀ t ∈ f.rawTexts, OneLine t := by
  intro t ht
  cases step_trouble hstep with
  | output hcause =>
    rcases hcause with hcause | ⟨piece, hcause⟩
    · simp [Sink.flush_working hd] at hcause
    · simp [Sink.publish_working hd] at hcause
  | line hcell hfault =>
    rename_i fault
    cases fault with
    | exhausted =>
      rw [List.mem_singleton.mp ht]
      rcases hcell with hcell | hcell
      · rw [hcell]
        decide
      · rw [hcell]
        decide
    | notUtf8 =>
      rw [List.mem_singleton.mp ht]
      decide +kernel
    | device cause =>
      rw [List.mem_singleton.mp ht]
      exact h cause (Source.readLine_cause hfault)
  | emptyLine => cases ht
  | notInteger line cause => cases ht
  | noCharacter v => cases ht

end Machine

end Gridwalk
