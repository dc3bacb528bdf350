import Mathlib
import Gridwalk.Proofs.Decimals

/-!
# Which texts are integers

An optional sign and one or more ASCII digits, worth a value within the range. Reading goes from
left to right and stops at the first fault, so a value past the range hides every character
behind it, and a character that is no digit hides every digit behind it.
-/
namespace Gridwalk

namespace Decimal

/-- The signed 64-bit integers. -/
def InRange (n : Int) : Prop := -2 ^ 63 ≤ n ∧ n ≤ 2 ^ 63 - 1

instance : DecidablePred InRange := fun n =>
  inferInstanceAs (Decidable (-2 ^ 63 ≤ n ∧ n ≤ 2 ^ 63 - 1))

def AllDigits (text : List Char) : Prop := ∀ c ∈ text, c.isDigit = true

instance : DecidablePred AllDigits := fun text =>
  decidable_of_iff (text.all Char.isDigit = true) List.all_eq_true

/-- What digits are worth in base ten. -/
def magnitude (digits : List Char) : Nat := Nat.ofDigitChars 10 digits 0

inductive Sign where
  | bare
  | plus
  | minus

namespace Sign

def glyph : Sign → List Char
  | bare => []
  | plus => ['+']
  | minus => ['-']

def apply : Sign → Nat → Int
  | minus, n => -n
  | _, n => n

/-- The largest magnitude that the sign leaves within the range. -/
def bound : Sign → Nat
  | minus => 0x8000000000000000
  | _ => 0x7fffffffffffffff

/-- The fault of a value that lies past the end of the range on the side of the sign. -/
def overflow : Sign → IntegerFault
  | minus => .tooSmall
  | _ => .tooLarge

theorem inRange_apply_iff (s : Sign) (n : Nat) : InRange (s.apply n) ↔ n ≤ s.bound := by
  cases s <;> simp only [InRange, apply, bound] <;> omega

/-- A magnitude that is turned into an integer first and into a word then. -/
theorem map_ofInt (r : Except IntegerFault Nat) :
    (r.map fun n => Int64.ofInt n) = r.map fun n : Nat => Int64.ofInt (bare.apply n) := by
  cases r <;> rfl

theorem map_minus (r : Except IntegerFault Nat) :
    (r.map fun n => Int64.ofInt (-n)) = r.map fun n : Nat => Int64.ofInt (minus.apply n) := by
  cases r <;> rfl

theorem overflow_ne (s : Sign) : s.overflow ≠ .empty ∧ s.overflow ≠ .invalidDigit := by
  cases s <;> decide

end Sign

/-- The text is an integer of the grammar, and this is its value. -/
def Denotes (text : List Char) (n : Int) : Prop :=
  ∃ (s : Sign) (digits : List Char), text = s.glyph ++ digits ∧ digits ≠ [] ∧
    AllDigits digits ∧ n = s.apply (magnitude digits)

/-- Some of the digits, taken from the first, are already worth a value out of range. -/
def Overflows (text : List Char) (fault : IntegerFault) : Prop :=
  ∃ (s : Sign) (front rest : List Char), text = s.glyph ++ (front ++ rest) ∧
    AllDigits front ∧ ¬ InRange (s.apply (magnitude front)) ∧ fault = s.overflow

/-- The cause that is named for a text that is no integer in range. -/
structure Explains (text : List Char) (cause : IntegerFault) : Prop where
  empty : cause = .empty ↔ text = []
  tooLarge : cause = .tooLarge ↔ Overflows text .tooLarge
  tooSmall : cause = .tooSmall ↔ Overflows text .tooSmall
  invalidDigit : cause = .invalidDigit ↔ text ≠ [] ∧ ∀ fault, ¬ Overflows text fault

section Digits

theorem digit?_eq (c : Char) :
    digit? c = if c.isDigit = true then some (c.toNat - '0'.toNat) else none := by
  have hrange : ('0' ≤ c ∧ c ≤ '9') ↔ c.isDigit = true := by
    simp [Char.isDigit, Char.le_def]
  rw [digit?]
  simp only [hrange]

theorem allDigits_nil : AllDigits [] := List.forall_mem_nil _

theorem allDigits_cons {c : Char} {text : List Char} :
    AllDigits (c :: text) ↔ c.isDigit = true ∧ AllDigits text := List.forall_mem_cons

theorem ofDigitChars_cons (n : Nat) (c : Char) (text : List Char) :
    Nat.ofDigitChars 10 (c :: text) n =
      Nat.ofDigitChars 10 text (n * 10 + (c.toNat - '0'.toNat)) := by
  rw [Nat.ofDigitChars_cons, Nat.mul_comm]

theorem le_ofDigitChars (text : List Char) (n : Nat) : n ≤ Nat.ofDigitChars 10 text n := by
  rw [Nat.ofDigitChars_eq_ofDigitChars_zero]
  have hpow : 1 ≤ 10 ^ text.length := Nat.one_le_pow _ _ (by decide)
  have hmul := Nat.mul_le_mul_right n hpow
  omega

variable {bound : Nat} {overflow : IntegerFault}

theorem accumulate_cons (n : Nat) (c : Char) (text : List Char) :
    accumulate bound overflow n (c :: text) =
      if c.isDigit = true then
        if n * 10 + (c.toNat - '0'.toNat) ≤ bound then
          accumulate bound overflow (n * 10 + (c.toNat - '0'.toNat)) text
        else .error overflow
      else .error .invalidDigit := by
  rw [accumulate, digit?_eq]
  by_cases hc : c.isDigit = true
  · rw [if_pos hc, if_pos hc]
  · rw [if_neg hc, if_neg hc]

theorem accumulate_eq_ok_iff {text : List Char} {start n : Nat} (h : start ≤ bound) :
    accumulate bound overflow start text = .ok n ↔
      AllDigits text ∧ Nat.ofDigitChars 10 text start = n ∧ n ≤ bound := by
  induction text generalizing start with
  | nil =>
    rw [accumulate, Except.ok.injEq, Nat.ofDigitChars_nil]
    constructor
    · rintro rfl
      exact ⟨allDigits_nil, rfl, h⟩
    · exact fun hvalue => hvalue.2.1
  | cons c text ih =>
    rw [accumulate_cons, allDigits_cons, ofDigitChars_cons]
    by_cases hc : c.isDigit = true
    · rw [if_pos hc]
      by_cases hfits : start * 10 + (c.toNat - '0'.toNat) ≤ bound
      · rw [if_pos hfits, ih hfits, and_assoc, and_iff_right hc]
      · rw [if_neg hfits]
        refine iff_of_false (by simp) ?_
        rintro ⟨-, hvalue, hn⟩
        have hgrows := le_ofDigitChars text (start * 10 + (c.toNat - '0'.toNat))
        omega
    · rw [if_neg hc]
      exact iff_of_false (by simp) fun hdigits => hc hdigits.1.1

/-- The digits that make the value too large come before anything that is no digit. -/
theorem accumulate_eq_overflow_iff (ho : overflow ≠ .invalidDigit) {text : List Char}
    {start : Nat} (h : start ≤ bound) :
    accumulate bound overflow start text = .error overflow ↔
      ∃ front rest, text = front ++ rest ∧ AllDigits front ∧
        bound < Nat.ofDigitChars 10 front start := by
  induction text generalizing start with
  | nil =>
    refine iff_of_false (by simp [accumulate]) ?_
    rintro ⟨front, rest, htext, -, hpast⟩
    obtain ⟨rfl, -⟩ := List.nil_eq_append_iff.mp htext
    rw [Nat.ofDigitChars_nil] at hpast
    omega
  | cons c text ih =>
    rw [accumulate_cons]
    constructor
    · intro hfails
      by_cases hc : c.isDigit = true
      · rw [if_pos hc] at hfails
        by_cases hfits : start * 10 + (c.toNat - '0'.toNat) ≤ bound
        · rw [if_pos hfits, ih hfits] at hfails
          obtain ⟨front, rest, rfl, hfront, hpast⟩ := hfails
          refine ⟨c :: front, rest, rfl, allDigits_cons.mpr ⟨hc, hfront⟩, ?_⟩
          rwa [ofDigitChars_cons]
        · refine ⟨[c], text, rfl, allDigits_cons.mpr ⟨hc, allDigits_nil⟩, ?_⟩
          rw [ofDigitChars_cons, Nat.ofDigitChars_nil]
          omega
      · rw [if_neg hc, Except.error.injEq] at hfails
        exact absurd hfails.symm ho
    · rintro ⟨front, rest, htext, hfront, hpast⟩
      cases front with
      | nil =>
        rw [Nat.ofDigitChars_nil] at hpast
        omega
      | cons d front =>
        obtain ⟨rfl, rfl⟩ := List.cons.inj htext
        obtain ⟨hc, hfront⟩ := allDigits_cons.mp hfront
        rw [ofDigitChars_cons] at hpast
        rw [if_pos hc]
        by_cases hfits : start * 10 + (c.toNat - '0'.toNat) ≤ bound
        · rw [if_pos hfits, ih hfits]
          exact ⟨front, rest, rfl, hfront, hpast⟩
        · rw [if_neg hfits]

theorem accumulate_error {text : List Char} {start : Nat} {cause : IntegerFault}
    (h : accumulate bound overflow start text = .error cause) :
    cause = overflow ∨ cause = .invalidDigit := by
  induction text generalizing start with
  | nil => cases h
  | cons c text ih =>
    rw [accumulate_cons] at h
    split at h
    · split at h
      · exact ih h
      · exact .inl (Except.error.inj h).symm
    · exact .inr (Except.error.inj h).symm

theorem readDigits_eq_ok_iff {text : List Char} {n : Nat} :
    readDigits bound overflow text = .ok n ↔
      text ≠ [] ∧ AllDigits text ∧ magnitude text = n ∧ n ≤ bound := by
  cases text with
  | nil => simp [readDigits]
  | cons c text =>
    have hread : readDigits bound overflow (c :: text) =
        accumulate bound overflow 0 (c :: text) := rfl
    rw [hread, accumulate_eq_ok_iff (Nat.zero_le bound)]
    exact (and_iff_right (List.cons_ne_nil c text)).symm

theorem readDigits_eq_overflow_iff (ho : overflow ≠ .invalidDigit) {text : List Char} :
    readDigits bound overflow text = .error overflow ↔
      ∃ front rest, text = front ++ rest ∧ AllDigits front ∧ bound < magnitude front := by
  cases text with
  | nil =>
    refine iff_of_false (fun h => ho (Except.error.inj h).symm) ?_
    rintro ⟨front, rest, htext, -, hpast⟩
    obtain ⟨rfl, -⟩ := List.nil_eq_append_iff.mp htext
    exact Nat.not_lt_zero bound hpast
  | cons c text => exact accumulate_eq_overflow_iff ho (Nat.zero_le bound)

theorem readDigits_error {text : List Char} {cause : IntegerFault}
    (h : readDigits bound overflow text = .error cause) :
    cause = overflow ∨ cause = .invalidDigit := by
  cases text with
  | nil => exact .inr (Except.error.inj h).symm
  | cons c text => exact accumulate_error h

end Digits

section Signs

/-- The sign that a text begins with, if any, and what follows it. -/
def unsign : List Char → Sign × List Char
  | '-' :: digits => (.minus, digits)
  | '+' :: digits => (.plus, digits)
  | digits => (.bare, digits)

theorem glyph_unsign (text : List Char) : (unsign text).1.glyph ++ (unsign text).2 = text := by
  unfold unsign
  split <;> rfl

/-- A digit is no sign, so there is one way only to take a sign off in front of it. -/
theorem unsign_glyph (s : Sign) {d : Char} (hd : d.isDigit = true) (rest : List Char) :
    unsign (s.glyph ++ d :: rest) = (s, d :: rest) := by
  cases s with
  | plus => rfl
  | minus => rfl
  | bare =>
    change unsign (d :: rest) = (.bare, d :: rest)
    unfold unsign
    split
    · rename_i heq
      obtain ⟨rfl, -⟩ := List.cons.inj heq
      exact absurd hd (by decide)
    · rename_i heq
      obtain ⟨rfl, -⟩ := List.cons.inj heq
      exact absurd hd (by decide)
    · rfl

theorem unsign_of_digits {s : Sign} {text front rest : List Char} (hne : front ≠ [])
    (hdigits : AllDigits front) (h : text = s.glyph ++ (front ++ rest)) :
    unsign text = (s, front ++ rest) := by
  cases front with
  | nil => exact absurd rfl hne
  | cons d front =>
    rw [h, List.cons_append]
    exact unsign_glyph s (allDigits_cons.mp hdigits).1 (front ++ rest)

theorem readInt64_eq {text : List Char} (h : text ≠ []) :
    readInt64 text = (readDigits (unsign text).1.bound (unsign text).1.overflow
      (unsign text).2).map fun n => Int64.ofInt ((unsign text).1.apply n) := by
  unfold readInt64
  split
  · exact absurd rfl h
  · exact Sign.map_minus _
  · exact Sign.map_ofInt _
  · rename_i hminus hplus
    have hbare : unsign text = (.bare, text) := by
      unfold unsign
      split
      · exact absurd rfl (hminus _)
      · exact absurd rfl (hplus _)
      · rfl
    rw [hbare]
    exact Sign.map_ofInt _

theorem denotes_iff {text : List Char} {n : Int} :
    Denotes text n ↔ (unsign text).2 ≠ [] ∧ AllDigits (unsign text).2 ∧
      n = (unsign text).1.apply (magnitude (unsign text).2) := by
  constructor
  · rintro ⟨s, digits, htext, hne, hdigits, hn⟩
    rw [← List.append_nil digits] at htext
    rw [unsign_of_digits hne hdigits htext, List.append_nil]
    exact ⟨hne, hdigits, hn⟩
  · rintro ⟨hne, hdigits, hn⟩
    exact ⟨_, _, (glyph_unsign text).symm, hne, hdigits, hn⟩

theorem overflows_iff {text : List Char} {fault : IntegerFault} :
    Overflows text fault ↔ fault = (unsign text).1.overflow ∧
      ∃ front rest, (unsign text).2 = front ++ rest ∧ AllDigits front ∧
        (unsign text).1.bound < magnitude front := by
  constructor
  · rintro ⟨s, front, rest, htext, hfront, hpast, hfault⟩
    rw [Sign.inRange_apply_iff, Nat.not_le] at hpast
    have hne : front ≠ [] := by
      rintro rfl
      exact Nat.not_lt_zero _ hpast
    rw [unsign_of_digits hne hfront htext]
    exact ⟨hfault, front, rest, rfl, hfront, hpast⟩
  · rintro ⟨hfault, front, rest, hdigits, hfront, hpast⟩
    refine ⟨_, front, rest, ?_, hfront, ?_, hfault⟩
    · rw [← hdigits, glyph_unsign]
    · rwa [Sign.inRange_apply_iff, Nat.not_le]

end Signs

theorem inRange_toInt (v : Int64) : InRange v.toInt := by
  have hhigh := v.toInt_lt
  have hlow := v.le_toInt
  exact ⟨hlow, by omega⟩

theorem toInt_ofInt {n : Int} (h : InRange n) : (Int64.ofInt n).toInt = n := by
  obtain ⟨hlow, hhigh⟩ := h
  exact Int64.toInt_ofInt_of_le hlow (by omega)

theorem readInt64_eq_ok_iff {text : List Char} {v : Int64} :
    readInt64 text = .ok v ↔ Denotes text v.toInt := by
  by_cases hne : text = []
  · subst hne
    exact iff_of_false (by simp [readInt64]) fun h => (denotes_iff.mp h).1 rfl
  rw [readInt64_eq hne, denotes_iff]
  generalize (unsign text).1 = s, (unsign text).2 = digits
  constructor
  · intro h
    cases hread : readDigits s.bound s.overflow digits with
    | error cause =>
      rw [hread] at h
      cases h
    | ok n =>
      rw [hread] at h
      cases h
      obtain ⟨hdigits, hall, rfl, hfits⟩ := readDigits_eq_ok_iff.mp hread
      exact ⟨hdigits, hall, toInt_ofInt ((s.inRange_apply_iff _).mpr hfits)⟩
  · rintro ⟨hdigits, hall, hvalue⟩
    have hfits : magnitude digits ≤ s.bound := by
      rw [← s.inRange_apply_iff, ← hvalue]
      exact inRange_toInt v
    rw [readDigits_eq_ok_iff.mpr ⟨hdigits, hall, rfl, hfits⟩]
    change Except.ok (Int64.ofInt (s.apply (magnitude digits))) = .ok v
    rw [← hvalue, Int64.ofInt_toInt]

/-- An integer out of range is rejected like a text that is no integer. -/
theorem exists_ok_iff {text : List Char} :
    (∃ v, readInt64 text = .ok v) ↔ ∃ n, Denotes text n ∧ InRange n := by
  constructor
  · rintro ⟨v, hv⟩
    exact ⟨v.toInt, readInt64_eq_ok_iff.mp hv, inRange_toInt v⟩
  · rintro ⟨n, hn, hrange⟩
    refine ⟨Int64.ofInt n, readInt64_eq_ok_iff.mpr ?_⟩
    rwa [toInt_ofInt hrange]

theorem not_overflows_nil (fault : IntegerFault) : ¬ Overflows [] fault := by
  intro h
  obtain ⟨-, front, rest, hdigits, -, hpast⟩ := overflows_iff.mp h
  obtain ⟨rfl, -⟩ := List.nil_eq_append_iff.mp hdigits
  exact Nat.not_lt_zero _ hpast

theorem explains_nil : Explains [] .empty :=
  ⟨by simp, by simp [not_overflows_nil], by simp [not_overflows_nil], by simp⟩

/-- Once there is any text, the sign decides which fault an overflow is. -/
theorem explains_of_readDigits {text : List Char} {cause : IntegerFault} (hne : text ≠ [])
    (h : readDigits (unsign text).1.bound (unsign text).1.overflow (unsign text).2 =
      .error cause) : Explains text cause := by
  obtain ⟨hempty, hinvalid⟩ := (unsign text).1.overflow_ne
  have hcause := readDigits_error h
  have hoverflows : ∀ fault, Overflows text fault ↔ fault = (unsign text).1.overflow ∧
      cause = (unsign text).1.overflow := by
    intro fault
    rw [overflows_iff, ← readDigits_eq_overflow_iff hinvalid, h, Except.error.injEq]
  have htold : ∀ fault, fault ≠ .invalidDigit → (cause = fault ↔ Overflows text fault) := by
    intro fault hfault
    rw [hoverflows]
    constructor
    · rintro rfl
      have hsame := hcause.resolve_right hfault
      exact ⟨hsame, hsame⟩
    · rintro ⟨rfl, hsame⟩
      exact hsame
  refine ⟨?_, htold _ (by decide), htold _ (by decide), ?_⟩
  · refine iff_of_false ?_ hne
    rintro rfl
    rcases hcause with hsame | hsame
    · exact hempty hsame.symm
    · cases hsame
  · constructor
    · rintro rfl
      refine ⟨hne, fun fault hfault => ?_⟩
      exact hinvalid ((hoverflows fault).mp hfault).2.symm
    · rintro ⟨-, hnone⟩
      refine hcause.resolve_left fun hsame => ?_
      exact hnone _ ((hoverflows _).mpr ⟨rfl, hsame⟩)

theorem explains_of_readInt64 {text : List Char} {cause : IntegerFault}
    (h : readInt64 text = .error cause) : Explains text cause := by
  by_cases hne : text = []
  · subst hne
    cases h
    exact explains_nil
  · rw [readInt64_eq hne] at h
    apply explains_of_readDigits hne
    cases hread : readDigits (unsign text).1.bound (unsign text).1.overflow (unsign text).2 with
    | error first =>
      rw [hread] at h
      cases h
      rfl
    | ok n =>
      rw [hread] at h
      cases h

theorem Explains.unique {text : List Char} {cause cause' : IntegerFault}
    (h : Explains text cause) (h' : Explains text cause') : cause = cause' := by
  cases cause with
  | empty => exact (h'.empty.mpr (h.empty.mp rfl)).symm
  | invalidDigit => exact (h'.invalidDigit.mpr (h.invalidDigit.mp rfl)).symm
  | tooLarge => exact (h'.tooLarge.mpr (h.tooLarge.mp rfl)).symm
  | tooSmall => exact (h'.tooSmall.mpr (h.tooSmall.mp rfl)).symm

/-- Reading fails exactly where there is no integer in range, and it names the cause. -/
theorem readInt64_eq_error_iff {text : List Char} {cause : IntegerFault} :
    readInt64 text = .error cause ↔
      (∀ n, Denotes text n → ¬ InRange n) ∧ Explains text cause := by
  have hok := @exists_ok_iff text
  cases hread : readInt64 text with
  | ok v =>
    obtain ⟨n, hn, hrange⟩ := hok.mp ⟨v, hread⟩
    exact iff_of_false (by simp) fun h => h.1 n hn hrange
  | error first =>
    have hfirst := explains_of_readInt64 hread
    rw [Except.error.injEq]
    constructor
    · rintro rfl
      refine ⟨fun n hn hrange => ?_, hfirst⟩
      obtain ⟨v, hv⟩ := hok.mpr ⟨n, hn, hrange⟩
      rw [hread] at hv
      cases hv
    · exact fun h => hfirst.unique h.2

end Decimal

namespace Blank

/-- The text without the white space at its ends. -/
def Trims (text word : List Char) : Prop :=
  ∃ before behind, text = before ++ (word ++ behind) ∧
    (∀ c ∈ before, isBlank c = true) ∧ (∀ c ∈ behind, isBlank c = true) ∧
    (∀ c, word.head? = some c → isBlank c = false) ∧
    (∀ c, word.getLast? = some c → isBlank c = false)

theorem isBlank_of_head_dropWhile {text : List Char} {c : Char}
    (h : (text.dropWhile isBlank).head? = some c) : isBlank c = false := by
  have hhead := List.head?_dropWhile_not isBlank text
  rwa [h] at hhead

theorem dropWhile_of_solid {text : List Char}
    (h : ∀ c, text.head? = some c → isBlank c = false) : text.dropWhile isBlank = text := by
  cases text with
  | nil => rfl
  | cons c rest => exact List.dropWhile_cons_of_neg (Bool.eq_false_iff.mp (h c rfl))

theorem trims_trim (text : List Char) : Trims text (trim text) := by
  have hstart : text = text.takeWhile isBlank ++ trimStart text :=
    List.takeWhile_append_dropWhile.symm
  have hend : trimStart text = trim text ++ ((trimStart text).reverse.takeWhile isBlank).reverse := by
    have hsplit : (trimStart text).reverse.takeWhile isBlank ++
        (trimStart text).reverse.dropWhile isBlank = (trimStart text).reverse :=
      List.takeWhile_append_dropWhile
    rw [trim, trimEnd, ← List.reverse_append, hsplit, List.reverse_reverse]
  refine ⟨text.takeWhile isBlank, ((trimStart text).reverse.takeWhile isBlank).reverse, ?_,
    fun c => List.mem_takeWhile_imp, fun c hc => List.mem_takeWhile_imp (List.mem_reverse.mp hc),
    ?_, ?_⟩
  · rw [← hend]
    exact hstart
  · intro c hc
    have hhead : (trimStart text).head? = some c := by
      rw [hend, List.head?_append, hc, Option.some_or]
    exact isBlank_of_head_dropWhile hhead
  · intro c hc
    rw [trim, trimEnd, List.getLast?_reverse] at hc
    exact isBlank_of_head_dropWhile hc

theorem Trims.trim {text word : List Char} (h : Trims text word) : trim text = word := by
  obtain ⟨before, behind, rfl, hbefore, hbehind, hhead, hlast⟩ := h
  rw [Blank.trim, trimStart, List.dropWhile_append_of_pos hbefore]
  by_cases hne : word = []
  · subst hne
    have hnone : behind.dropWhile isBlank = [] := List.dropWhile_eq_nil_iff.mpr hbehind
    rw [List.nil_append, hnone]
    rfl
  · have hstart : (word ++ behind).dropWhile isBlank = word ++ behind := by
      apply dropWhile_of_solid
      intro c hc
      rw [List.head?_append_of_ne_nil _ hne] at hc
      exact hhead c hc
    have hbehind' : ∀ c ∈ behind.reverse, isBlank c = true :=
      fun c hc => hbehind c (List.mem_reverse.mp hc)
    have hend : word.reverse.dropWhile isBlank = word.reverse := by
      apply dropWhile_of_solid
      intro c hc
      rw [List.head?_reverse] at hc
      exact hlast c hc
    rw [hstart, trimEnd, List.reverse_append, List.dropWhile_append_of_pos hbehind', hend,
      List.reverse_reverse]

/-- There is one word to be found on a line, and it is found. -/
theorem trim_eq_iff {text word : List Char} : trim text = word ↔ Trims text word :=
  ⟨fun h => h ▸ trims_trim text, Trims.trim⟩

end Blank

end Gridwalk
