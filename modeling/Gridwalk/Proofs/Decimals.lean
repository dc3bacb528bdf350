import Gridwalk.Proofs.Effects
import Gridwalk.Proofs.OneLine

/-!
# Integers read back

Reading undoes writing for every 64-bit integer. The two bounds of reading are met exactly by
the two ends of the range, and no digit before the last is ever past them.
-/
namespace Gridwalk

namespace Decimal

/-- All that an integer is written with. -/
def glyphs : List Char := ['-', '0', '1', '2', '3', '4', '5', '6', '7', '8', '9']

theorem mem_glyphs_of_mem_writeNat {n : Nat} {c : Char} (h : c ∈ writeNat n) : c ∈ glyphs := by
  have digit : ∀ d < 10, Nat.digitChar d ∈ glyphs := by decide
  obtain ⟨d, hd, rfl⟩ := exists_of_mem_toDigits (by decide) h
  exact digit d hd

theorem mem_glyphs_of_mem_writeInt {n : Int} {c : Char} (h : c ∈ writeInt n) : c ∈ glyphs := by
  unfold writeInt at h
  split at h
  · rcases List.mem_cons.mp h with rfl | h
    · decide
    · exact mem_glyphs_of_mem_writeNat h
  · exact mem_glyphs_of_mem_writeNat h

theorem writeInt_ne_nil {n : Int} : writeInt n ≠ [] := by
  unfold writeInt
  split
  · exact List.cons_ne_nil _ _
  · exact Nat.toDigits_ne_nil

theorem isDigit_of_mem_writeNat {n : Nat} {c : Char} (h : c ∈ writeNat n) : c.isDigit = true :=
  Nat.isDigit_of_mem_toDigits (by decide) (by decide) h

theorem digit?_digitChar {d : Nat} (h : d < 10) : digit? (Nat.digitChar d) = some d := by
  have table : ∀ d < 10, digit? (Nat.digitChar d) = some d := by decide
  exact table d h

section Accumulate

variable (bound : Nat) (overflow : IntegerFault)

theorem accumulate_append (s t : List Char) (magnitude : Nat) :
    accumulate bound overflow magnitude (s ++ t) =
      (accumulate bound overflow magnitude s).bind (accumulate bound overflow · t) := by
  induction s generalizing magnitude with
  | nil => rfl
  | cons c s ih =>
    rw [List.cons_append, accumulate, accumulate]
    cases digit? c with
    | none => rfl
    | some d =>
      dsimp only
      split
      · exact ih _
      · rfl

theorem accumulate_digit {magnitude d : Nat} (hd : d < 10) (h : magnitude * 10 + d ≤ bound) :
    accumulate bound overflow magnitude [Nat.digitChar d] = .ok (magnitude * 10 + d) := by
  rw [accumulate, digit?_digitChar hd]
  dsimp only
  rw [if_pos h, accumulate]

theorem accumulate_writeNat {n : Nat} (h : n ≤ bound) :
    accumulate bound overflow 0 (writeNat n) = .ok n := by
  unfold writeNat
  -- The last digit comes to what the others have made, which is less than all of them make.
  induction n using Nat.strong_induction_on with
  | h n ih =>
    rw [Nat.toDigits_eq_if (by decide)]
    split
    · rename_i hn
      rw [accumulate_digit bound overflow hn (by omega)]
      simp
    · have hless : n / 10 < n := Nat.div_lt_self (by omega) (by decide)
      have hdigits : n / 10 * 10 + n % 10 = n := by omega
      rw [accumulate_append, ih _ hless (by omega)]
      change accumulate bound overflow (n / 10) [Nat.digitChar (n % 10)] = .ok n
      rw [accumulate_digit bound overflow (by omega) (by omega), hdigits]

theorem readDigits_writeNat {n : Nat} (h : n ≤ bound) :
    readDigits bound overflow (writeNat n) = .ok n := by
  have hvalue := accumulate_writeNat bound overflow h
  unfold readDigits
  split
  · rename_i hnil
    exact absurd hnil Nat.toDigits_ne_nil
  · exact hvalue

end Accumulate

theorem readInt64_minus (digits : List Char) :
    readInt64 ('-' :: digits) =
      (readDigits 0x8000000000000000 .tooSmall digits).map fun n => Int64.ofInt (-n) := rfl

/-- A number that is written without a sign is read without one. -/
theorem readInt64_writeNat (n : Nat) :
    readInt64 (writeNat n) =
      (readDigits 0x7fffffffffffffff .tooLarge (writeNat n)).map fun n => Int64.ofInt n := by
  have hdigit : ∀ c ∈ writeNat n, c.isDigit = true := fun _ => isDigit_of_mem_writeNat
  unfold readInt64
  split
  · rename_i hnil
    exact absurd hnil Nat.toDigits_ne_nil
  · rename_i heq
    exact absurd (hdigit '-' (heq ▸ List.mem_cons_self)) (by decide)
  · rename_i heq
    exact absurd (hdigit '+' (heq ▸ List.mem_cons_self)) (by decide)
  · rfl

theorem readInt64_writeInt (v : Int64) : readInt64 (writeInt v.toInt) = .ok v := by
  have hhigh := v.toInt_lt
  have hlow := v.le_toInt
  unfold writeInt
  split
  · have hvalue : -(v.toInt.natAbs : Int) = v.toInt := by omega
    rw [readInt64_minus, readDigits_writeNat _ _ (by omega)]
    change Except.ok (Int64.ofInt (-(v.toInt.natAbs : Int))) = .ok v
    rw [hvalue, Int64.ofInt_toInt]
  · have hvalue : (v.toInt.natAbs : Int) = v.toInt := by omega
    rw [readInt64_writeNat, readDigits_writeNat _ _ (by omega)]
    change Except.ok (Int64.ofInt (v.toInt.natAbs : Int)) = .ok v
    rw [hvalue, Int64.ofInt_toInt]

end Decimal

namespace Blank

theorem trim_of_solid {text : List Char} (h : ∀ c ∈ text, isBlank c = false) :
    trim text = text := by
  have hdrop : ∀ {t : List Char}, (∀ c ∈ t, isBlank c = false) → t.dropWhile isBlank = t := by
    intro t ht
    cases t with
    | nil => rfl
    | cons c rest =>
      exact List.dropWhile_cons_of_neg (Bool.eq_false_iff.mp (ht c List.mem_cons_self))
  rw [trim, trimStart, hdrop h, trimEnd, hdrop, List.reverse_reverse]
  exact fun c hc => h c (List.mem_reverse.mp hc)

end Blank

/-- A line with nothing but an integer on it is that integer. -/
theorem Machine.intWord_writeInt (v : Int64) : intWord (Decimal.writeInt v.toInt) = .ok v := by
  have solid : (Decimal.glyphs.all fun c => !Blank.isBlank c) = true := by decide +kernel
  have htrim : Blank.trim (Decimal.writeInt v.toInt) = Decimal.writeInt v.toInt := by
    apply Blank.trim_of_solid
    intro c hc
    have h := List.all_eq_true.mp solid c (Decimal.mem_glyphs_of_mem_writeInt hc)
    rwa [Bool.not_eq_true'] at h
  rw [intWord, htrim, Decimal.readInt64_writeInt]
  rfl

end Gridwalk
