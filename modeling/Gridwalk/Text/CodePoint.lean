/-!
# Characters as words

A character travels over the stack as its code point. Only words that are Unicode scalar
values lead back to a character.
-/
namespace Gridwalk.CodePoint

def ofChar (c : Char) : Int64 := Int64.ofNat c.toNat

def toChar? (v : Int64) : Option Char :=
  match v.toInt with
  | .ofNat n => if h : n.isValidChar then some (Char.ofNatAux n h) else none
  | .negSucc _ => none

theorem toNat_lt (c : Char) : c.toNat < 0x110000 := by
  rcases c.valid with h | h
  · exact Nat.lt_trans h (by decide)
  · exact h.2

theorem toInt_ofChar (c : Char) : (ofChar c).toInt = c.toNat := by
  have hlt := toNat_lt c
  exact Int64.toInt_ofNat_of_lt (by omega)

@[simp] theorem toChar?_ofChar (c : Char) : toChar? (ofChar c) = some c := by
  unfold toChar?
  rw [toInt_ofChar]
  have hvalid : c.toNat.isValidChar := c.valid
  exact dif_pos hvalid

theorem ofChar_of_toChar? {v : Int64} {c : Char} (h : toChar? v = some c) : ofChar c = v := by
  have hword : Int64.ofInt v.toInt = v := Int64.ofInt_toInt v
  unfold toChar? at h
  cases hv : v.toInt with
  | negSucc n =>
    rw [hv] at h
    cases h
  | ofNat n =>
    rw [hv] at h hword
    by_cases hvalid : n.isValidChar
    · have hchar := (dif_pos hvalid).symm.trans h
      cases hchar
      exact hword
    · have hnone := (dif_neg hvalid).symm.trans h
      cases hnone

/-- The words of characters are all that leads back to a character. -/
theorem toChar?_eq_some_iff {v : Int64} {c : Char} : toChar? v = some c ↔ ofChar c = v :=
  ⟨ofChar_of_toChar?, fun h => h ▸ toChar?_ofChar c⟩

end Gridwalk.CodePoint
