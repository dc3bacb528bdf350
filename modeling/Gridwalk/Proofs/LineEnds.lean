import Mathlib
import Gridwalk.Proofs.Lines

/-!
# Lines as text

A line of text ends at the first LF, and in UTF-8 the LF is the one byte of its value. What is
left of a line without its end can be told from the text alone.
-/
namespace Gridwalk

namespace Utf8

/-- No byte of a longer character looks like an ASCII character. -/
theorem lineFeed_mem_encodeChar {c : Char} :
    Source.lineFeed ∈ String.utf8EncodeChar c ↔ c = '\n' := by
  have hbyte : ∀ n < 256, Source.lineFeed = UInt8.ofNat n ↔ n = 10 := by
    intro n hn
    rw [← UInt8.toNat_inj, UInt8.toNat_ofNat_of_lt' hn]
    exact eq_comm
  have hhigh : ∀ n, 128 ≤ n → n < 256 → Source.lineFeed ≠ UInt8.ofNat n := by
    intro n hlow hn h
    have hten := (hbyte n hn).mp h
    omega
  have hchar : c = '\n' ↔ c.val.toNat = 10 := Char.toNat_inj.symm
  rw [String.utf8EncodeChar, hchar]
  by_cases hlow : c.val.toNat ≤ 127
  · rw [if_pos hlow, List.mem_singleton, hbyte _ (by omega)]
  · rw [if_neg hlow]
    refine iff_of_false ?_ (by omega)
    split
    · simp only [List.mem_cons, List.not_mem_nil, or_false, not_or]
      exact ⟨hhigh _ (by omega) (by omega), hhigh _ (by omega) (by omega)⟩
    · split
      · simp only [List.mem_cons, List.not_mem_nil, or_false, not_or]
        exact ⟨hhigh _ (by omega) (by omega), hhigh _ (by omega) (by omega),
          hhigh _ (by omega) (by omega)⟩
      · simp only [List.mem_cons, List.not_mem_nil, or_false, not_or]
        exact ⟨hhigh _ (by omega) (by omega), hhigh _ (by omega) (by omega),
          hhigh _ (by omega) (by omega), hhigh _ (by omega) (by omega)⟩

theorem lineFeed_mem_encode {text : List Char} :
    Source.lineFeed ∈ encode text ↔ '\n' ∈ text := by
  rw [encode, List.mem_flatMap]
  constructor
  · rintro ⟨c, hc, hb⟩
    rwa [← lineFeed_mem_encodeChar.mp hb]
  · exact fun h => ⟨'\n', h, lineFeed_mem_encodeChar.mpr rfl⟩

end Utf8

namespace Source

/-- The text of a line and what it is without its line end. A CR belongs to the line end only
in front of an LF. -/
inductive Strips : List Char → List Char → Prop where
  | lf {line} : line.getLast? ≠ some '\r' → Strips (line ++ ['\n']) line
  | pair (line) : Strips (line ++ ['\r', '\n']) line
  | last {line} : line.getLast? ≠ some '\n' → Strips line line

theorem strips_dropTerminator (text : List Char) : Strips text (dropTerminator text) := by
  have hback := List.reverse_reverse text
  unfold dropTerminator
  split
  · rename_i rest heq
    rw [heq, List.reverse_cons, List.reverse_cons, List.append_assoc] at hback
    rw [← hback]
    exact .pair rest.reverse
  · rename_i rest hcr heq
    rw [heq, List.reverse_cons] at hback
    rw [← hback]
    refine .lf ?_
    rw [List.getLast?_reverse]
    intro hlast
    obtain ⟨rest, rfl⟩ := List.head?_eq_some_iff.mp hlast
    exact hcr rest rfl
  · rename_i hcr hlf
    refine .last ?_
    rw [← List.head?_reverse]
    intro hlast
    obtain ⟨rest, hrest⟩ := List.head?_eq_some_iff.mp hlast
    exact hlf rest hrest

theorem Strips.dropTerminator {text line : List Char} (h : Strips text line) :
    dropTerminator text = line := by
  have hback := List.reverse_reverse line
  cases h with
  | lf hlast =>
    rw [← List.head?_reverse] at hlast
    rw [Source.dropTerminator, List.reverse_append, List.reverse_singleton, List.singleton_append]
    split
    · rename_i rest heq
      rw [(List.cons.inj heq).2] at hlast
      exact absurd rfl hlast
    · rename_i rest _ heq
      rw [← (List.cons.inj heq).2, hback]
    · rename_i hnone
      exact absurd rfl (hnone _)
  | pair => simp [Source.dropTerminator]
  | last hlast =>
    rw [← List.head?_reverse] at hlast
    unfold Source.dropTerminator
    split
    · rename_i rest heq
      rw [heq] at hlast
      exact absurd rfl hlast
    · rename_i rest _ heq
      rw [heq] at hlast
      exact absurd rfl hlast
    · rfl

theorem gives_line {text : List Char} (h : '\n' ∉ text) (rest : Source) :
    (prepend (Utf8.encode (text ++ ['\n'])) rest).Gives (Utf8.encode (text ++ ['\n'])) none rest := by
  rw [Utf8.encode_append]
  exact .whole rest (Utf8.lineFeed_mem_encode.not.mpr h)

theorem gives_last {text : List Char} (h : '\n' ∉ text) :
    (ofBytes (Utf8.encode text)).Gives (Utf8.encode text) none eof :=
  .last (Utf8.lineFeed_mem_encode.not.mpr h)

theorem verdict_encode {text : List Char} (h : text ≠ []) :
    verdict (Utf8.encode text) none = .ok (dropTerminator text) := by
  unfold verdict
  dsimp only
  rw [if_neg (Utf8.encode_eq_nil_iff.not.mpr h), Utf8.decode_encode]

theorem readLine_text {s rest : Source} {text line : List Char} (hne : text ≠ [])
    (h : s.Gives (Utf8.encode text) none rest) (hline : Strips text line) :
    s.readLine = (.ok line, rest) := by
  rw [h.readLine, verdict_encode hne, hline.dropTerminator]

theorem readLine_invalid {s rest : Source} {line : List UInt8} (hne : line ≠ [])
    (h : s.Gives line none rest) (hinvalid : ∀ text, line ≠ Utf8.encode text) :
    s.readLine = (.error .notUtf8, rest) := by
  rw [h.readLine, verdict, if_neg hne, Utf8.decode_eq_none_iff.mpr hinvalid]

end Source

end Gridwalk
