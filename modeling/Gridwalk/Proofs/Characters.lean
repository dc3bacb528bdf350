import Mathlib
import Gridwalk.Proofs.Pipes

/-!
# Characters through a pipe

A character that is written can be read back off the front of a line, whatever follows it there.
Only a character that is itself part of a line end can be lost: an LF always, and a CR if it
comes to stand right in front of the LF that ends its line.
-/
namespace Gridwalk

namespace CodePoint

/-- The Unicode scalar values. -/
def IsScalar (v : Int64) : Prop :=
  0 ≤ v.toInt ∧ v.toInt ≤ 0x10FFFF ∧ ¬ (0xD800 ≤ v.toInt ∧ v.toInt ≤ 0xDFFF)

instance : DecidablePred IsScalar := fun v =>
  inferInstanceAs (Decidable
    (0 ≤ v.toInt ∧ v.toInt ≤ 0x10FFFF ∧ ¬ (0xD800 ≤ v.toInt ∧ v.toInt ≤ 0xDFFF)))

theorem ofChar_inj {c d : Char} : ofChar c = ofChar d ↔ c = d := by
  constructor
  · intro h
    have hread := toChar?_ofChar c
    rw [h, toChar?_ofChar] at hread
    exact (Option.some.inj hread).symm
  · exact congrArg ofChar

theorem isScalar_ofChar (c : Char) : IsScalar (ofChar c) := by
  have hvalid : c.toNat < 0xD800 ∨ 0xDFFF < c.toNat ∧ c.toNat < 0x110000 := c.valid
  rw [IsScalar, toInt_ofChar]
  omega

theorem exists_char_of_isScalar {v : Int64} (h : IsScalar v) : ∃ c, toChar? v = some c := by
  obtain ⟨hlow, hhigh, hgap⟩ := h
  obtain ⟨n, hn⟩ := Int.eq_ofNat_of_zero_le hlow
  have hvalid : n.isValidChar := by
    unfold Nat.isValidChar
    omega
  refine ⟨Char.ofNatAux n hvalid, ?_⟩
  unfold toChar?
  rw [hn]
  exact dif_pos hvalid

theorem toChar?_eq_none_iff {v : Int64} : toChar? v = none ↔ ¬ IsScalar v := by
  constructor
  · intro hnone h
    obtain ⟨c, hc⟩ := exists_char_of_isScalar h
    rw [hnone] at hc
    cases hc
  · intro h
    cases hc : toChar? v with
    | none => rfl
    | some c => exact absurd (ofChar_of_toChar? hc ▸ isScalar_ofChar c) h

end CodePoint

namespace Source

/-- How a line may end and what may come behind it. Where no line end is written, the data must
end. -/
inductive LineEnd : List Char → Source → Prop where
  | last : LineEnd [] eof
  | lf (rest) : LineEnd ['\n'] rest
  | pair (rest) : LineEnd ['\r', '\n'] rest

variable {text ending : List Char} {rest : Source}

theorem LineEnd.gives (h : LineEnd ending rest) (htext : '\n' ∉ text) :
    (prepend (Utf8.encode (text ++ ending)) rest).Gives (Utf8.encode (text ++ ending)) none
      rest := by
  cases h with
  | last =>
    rw [List.append_nil]
    exact gives_last htext
  | lf => exact gives_line htext rest
  | pair =>
    have hreturned : '\n' ∉ text ++ ['\r'] := by simpa using htext
    have hgives := gives_line hreturned rest
    rwa [List.append_assoc, List.singleton_append] at hgives

/-- Taking the line end off leaves the first character, if that is not taken for a part of it. -/
theorem LineEnd.exists_strips {c : Char} (h : LineEnd ending rest) (htext : '\n' ∉ c :: text) :
    ∃ line, Strips (c :: text ++ ending) line ∧
      line.head? = if c = '\r' ∧ text = [] ∧ ending = ['\n'] then none else some c := by
  have hlast : (c :: text).getLast? ≠ some '\n' := fun hlast => htext (List.mem_of_getLast? hlast)
  cases h with
  | last =>
    rw [List.append_nil]
    exact ⟨c :: text, .last hlast, by simp⟩
  | pair => exact ⟨c :: text, .pair _, by simp⟩
  | lf =>
    by_cases hcr : (c :: text).getLast? = some '\r'
    · obtain ⟨front, hfront⟩ := List.getLast?_eq_some_iff.mp hcr
      refine ⟨front, ?_, ?_⟩
      · rw [hfront, List.append_assoc]
        exact .pair front
      · cases front with
        | nil =>
          obtain ⟨rfl, rfl⟩ := List.cons.inj hfront
          rfl
        | cons d front =>
          obtain ⟨rfl, rfl⟩ := List.cons.inj hfront
          simp
    · refine ⟨c :: text, .lf hcr, ?_⟩
      rw [if_neg]
      · rfl
      · rintro ⟨rfl, rfl, -⟩
        exact hcr rfl

end Source

namespace Machine

theorem charWord_of_head {line : List Char} {c : Char} (h : line.head? = some c) :
    charWord line = .ok (CodePoint.ofChar c) := by
  obtain ⟨rest, rfl⟩ := List.head?_eq_some_iff.mp h
  rfl

theorem charWord_of_empty {line : List Char} (h : line.head? = none) :
    charWord line = .error .emptyCharInput := by
  rw [List.head?_eq_none_iff.mp h]
  rfl

variable {m : Machine}

section Writing

variable (h : m.Executes ',')

include h

theorem step_writeChar (hd : m.output.device = .working) {c : Char}
    (hc : CodePoint.toChar? m.stack.top = some c) :
    m.step.1 = .ok .running ∧
      m.step.2.output.bytes.toList = m.output.bytes.toList ++ Utf8.encode [c] := by
  obtain ⟨hm, hcell⟩ := h
  have hi : Instruction.decode m.cell = .writeChar := by rw [hcell]; rfl
  have hpiece : m.piece = Utf8.encode [c] := by simp [piece, hm, hi, hc]
  have hbytes := step_bytes (Sink.accepts_of_working hd)
  have hexecute : m.count.execute (Instruction.decode m.cell) =
      (.ok (), { m.count with
        stack := m.stack.drop
        output := (m.output.publish (Utf8.encode [c])).2 }) := by
    have hc' : CodePoint.toChar? m.count.stack.top = some c := hc
    rw [hi, execute_writeChar, emit, charText, hc']
    dsimp only
    rw [publish_eq]
    exact Prod.ext (congrArg Fault.ofOutput (Sink.publish_working hd _)) rfl
  rw [hpiece] at hbytes
  rw [step_of_done hm (by simp [hi]) hexecute] at hbytes ⊢
  exact ⟨rfl, hbytes⟩

theorem step_unprintable (hv : ¬ CodePoint.IsScalar m.stack.top) :
    m.step.1 = .error (.invalidCodePoint m.stack.top) := by
  obtain ⟨hm, hcell⟩ := h
  have hi : Instruction.decode m.cell = .writeChar := by rw [hcell]; rfl
  have hexecute : m.count.execute (Instruction.decode m.cell) =
      (.error (.invalidCodePoint m.stack.top), { m.count with stack := m.stack.drop }) := by
    have hc : CodePoint.toChar? m.count.stack.top = none := CodePoint.toChar?_eq_none_iff.mpr hv
    rw [hi, execute_writeChar, emit, charText, hc]
    rfl
  rw [step_of_fault hm (by simp [hi]) hexecute]

end Writing

section Reading

variable (h : m.Executes '?') (hf : m.output.flush.1 = none)

include h hf

theorem step_readChar {line : List Char} {c : Char} {rest : Source}
    (hline : m.input.readLine = (.ok line, rest)) (hc : line.head? = some c) :
    m.step.1 = .ok .running ∧ m.step.2.stack = m.stack.push (CodePoint.ofChar c) ∧
      m.step.2.input = rest := by
  obtain ⟨hreading, hrest⟩ := reading_of_line hline
  rw [accepts, if_pos h.2, charWord_of_head hc] at hreading
  rw [step_of_accepted (asks_of_executes (.inr h)) hf hreading]
  exact ⟨rfl, rfl, hrest⟩

theorem step_readChar_empty {line : List Char} {rest : Source}
    (hline : m.input.readLine = (.ok line, rest)) (hnone : line.head? = none) :
    m.step.1 = .error .emptyCharInput ∧ m.step.2.input = rest := by
  obtain ⟨hreading, hrest⟩ := reading_of_line hline
  rw [accepts, if_pos h.2, charWord_of_empty hnone] at hreading
  rw [step_of_rejected (asks_of_executes (.inr h)) hf hreading]
  exact ⟨rfl, hrest⟩

end Reading

/-- Between the two cells there is a device and whatever else a line may hold. The exceptions are
the characters that a line ends with. -/
theorem characters_survive_pipe {a : Machine} (ha : a.Executes ',')
    (hd : a.output.device = .working) :
    ((∃ status, a.step.1 = .ok status) ↔ CodePoint.IsScalar a.stack.top) ∧
    (CodePoint.IsScalar a.stack.top → ∃ bytes,
      a.step.2.output.bytes.toList = a.output.bytes.toList ++ bytes ∧
      ∀ (b : Machine) (text ending : List Char) (rest : Source), b.Executes '?' →
        b.output.flush.1 = none → '\n' ∉ text → Source.LineEnd ending rest →
        b.input = .prepend (bytes ++ Utf8.encode (text ++ ending)) rest →
          (a.stack.top ≠ 10 → ¬ (a.stack.top = 13 ∧ text = [] ∧ ending = ['\n']) →
            b.step.1 = .ok .running ∧ b.step.2.stack = b.stack.push a.stack.top ∧
              b.step.2.input = rest) ∧
          (a.stack.top = 13 ∧ text = [] ∧ ending = ['\n'] →
            b.step.1 = .error .emptyCharInput ∧ b.step.2.input = rest) ∧
          (a.stack.top = 10 → b.step.1 = .error .emptyCharInput ∧
            b.step.2.input = .prepend (Utf8.encode (text ++ ending)) rest)) := by
  constructor
  · constructor
    · rintro ⟨status, hstatus⟩
      by_contra hv
      rw [step_unprintable ha hv] at hstatus
      cases hstatus
    · intro hv
      obtain ⟨c, hc⟩ := CodePoint.exists_char_of_isScalar hv
      exact ⟨.running, (step_writeChar ha hd hc).1⟩
  · intro hv
    obtain ⟨c, hc⟩ := CodePoint.exists_char_of_isScalar hv
    have hword := CodePoint.ofChar_of_toChar? hc
    refine ⟨Utf8.encode [c], (step_writeChar ha hd hc).2, ?_⟩
    intro b text ending rest hb hf htext hend hinput
    have hlf : a.stack.top = 10 ↔ c = '\n' := by
      rw [← hword]
      exact CodePoint.ofChar_inj (d := '\n')
    have hcr : a.stack.top = 13 ↔ c = '\r' := by
      rw [← hword]
      exact CodePoint.ofChar_inj (d := '\r')
    rw [hlf, hcr, ← hword]
    by_cases hnewline : c = '\n'
    · subst hnewline
      -- The line that the character itself ends is all that is read.
      have hline : b.input.readLine = (.ok [], .prepend (Utf8.encode (text ++ ending)) rest) := by
        rw [hinput, Source.prepend_append]
        exact Source.readLine_text (List.cons_ne_nil '\n' [])
          (@Source.gives_line [] (by simp) _) (@Source.Strips.lf [] (by simp))
      refine ⟨fun hne => absurd rfl hne, fun h => absurd h.1 (by decide), fun _ => ?_⟩
      exact step_readChar_empty hb hf hline rfl
    · have hbody : '\n' ∉ c :: text := List.not_mem_cons_of_ne_of_not_mem (Ne.symm hnewline) htext
      obtain ⟨line, hstrips, hhead⟩ := hend.exists_strips hbody
      have hline : b.input.readLine = (.ok line, rest) := by
        rw [hinput, ← Utf8.encode_append]
        exact Source.readLine_text (by simp) (hend.gives hbody) hstrips
      refine ⟨fun _ hkept => ?_, fun hlost => ?_, fun h => absurd h hnewline⟩
      · rw [if_neg hkept] at hhead
        exact step_readChar hb hf hline hhead
      · rw [if_pos hlost] at hhead
        exact step_readChar_empty hb hf hline hhead

/-- The last scalar value comes back from a line that ends with CR LF, and a CR is lost in front
of a bare LF. An LF leaves the text behind it unread, and a surrogate is not even written. -/
theorem characters_survive_pipe_at_range_ends :
    let writer := fun v => { start (Grid.parse ",".toList) .eof .working with stack := ⟨[v]⟩ }
    let reader := fun v text ending => start (Grid.parse "?".toList) (.prepend
      ((writer v).step.2.output.bytes.toList ++ Utf8.encode (text ++ ending)) (.ofBytes [65]))
      .working
    (reader 0x10FFFF ['é'] ['\r', '\n']).step.2.stack = ⟨[0x10FFFF]⟩ ∧
      (reader 13 [] ['\n']).step.1 = .error .emptyCharInput ∧
      (reader 10 ['é'] ['\n']).step.2.input =
        .prepend (Utf8.encode (['é'] ++ ['\n'])) (.ofBytes [65]) ∧
      ¬ ∃ status, (writer 0xD800).step.1 = .ok status := by
  intro writer reader
  have hpipe := fun v => characters_survive_pipe (a := writer v) (show _ ∧ _ from ⟨rfl, rfl⟩) rfl
  have hreads : ∀ v text ending, (reader v text ending).Executes '?' := fun _ _ _ => ⟨rfl, rfl⟩
  have hinput : ∀ {v bytes} (text ending : List Char),
      (writer v).step.2.output.bytes.toList = [] ++ bytes →
      (reader v text ending).input =
        .prepend (bytes ++ Utf8.encode (text ++ ending)) (.ofBytes [65]) := by
    intro v bytes text ending hbytes
    rw [List.nil_append] at hbytes
    rw [← hbytes]
    rfl
  refine ⟨?_, ?_, ?_, ?_⟩
  · obtain ⟨bytes, hbytes, hread⟩ := (hpipe 0x10FFFF).2 (by decide)
    have h := hread _ ['é'] ['\r', '\n'] _ (hreads _ _ _) rfl (by decide) (.pair _)
      (hinput ['é'] ['\r', '\n'] hbytes)
    exact (h.1 (by decide) (by decide)).2.1
  · obtain ⟨bytes, hbytes, hread⟩ := (hpipe 13).2 (by decide)
    have h := hread _ [] ['\n'] _ (hreads _ _ _) rfl (by decide) (.lf _)
      (hinput [] ['\n'] hbytes)
    exact (h.2.1 ⟨rfl, rfl, rfl⟩).1
  · obtain ⟨bytes, hbytes, hread⟩ := (hpipe 10).2 (by decide)
    have h := hread _ ['é'] ['\n'] _ (hreads _ _ _) rfl (by decide) (.lf _)
      (hinput ['é'] ['\n'] hbytes)
    exact (h.2.2 rfl).2
  · exact fun h => absurd ((hpipe 0xD800).1.mp h) (by decide)

end Machine

end Gridwalk
