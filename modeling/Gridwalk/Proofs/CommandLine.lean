import Mathlib
import Gridwalk.Options

/-!
# Options put in addition

Settings are independent of each other: one that can still be added in the end could have been
added before all the others, with the same result. So an option may be put wherever an option
can stand on the command line.
-/
namespace Gridwalk.Options

/-- An argument that is neither the start of the paths nor half of a step limit. -/
structure StandsAlone (arg : List Char) : Prop where
  not_dashes : arg ≠ ['-', '-']
  not_help : asksForHelp arg = false
  not_limit : arg ≠ "--step-limit".toList

/-- Reading arguments onto `o` leads to `o'`. -/
inductive Accepts : Options → List (List Char) → Options → Prop where
  | done (o) : Accepts o [] o
  | paths {o o' rest} : o.readPaths rest = .proceed o' → Accepts o (['-', '-'] :: rest) o'
  | limit {o o₁ o' value rest s} : value.head? ≠ some '-' → limit? value = some s →
      o.add s = some o₁ → Accepts o₁ rest o' →
      Accepts o ("--step-limit".toList :: value :: rest) o'
  | single {o o₁ o' arg rest s} : StandsAlone arg → single? arg = some s →
      o.add s = some o₁ → Accepts o₁ rest o' → Accepts o (arg :: rest) o'

theorem add_before {o o₁ o₂ : Options} {a b : Setting} (ha : o.add a = some o₁)
    (hb : o₁.add b = some o₂) : ∃ o', o.add b = some o' ∧ o'.add a = some o₂ := by
  -- Both were still missing, so they are settings of different kinds.
  cases a <;> simp only [add] at ha <;> split at ha <;> cases ha <;>
    cases b <;> simp_all [add]

theorem readPaths_before {o o₁ o₂ : Options} {args : List (List Char)} {s : Setting}
    (h : o.readPaths args = .proceed o₁) (hs : o₁.add s = some o₂) :
    ∃ o', o.add s = some o' ∧ o'.readPaths args = .proceed o₂ := by
  unfold readPaths at h ⊢
  induction args generalizing o with
  | nil =>
    cases h
    exact ⟨o₂, hs, rfl⟩
  | cons arg rest ih =>
    simp only [List.foldlM_cons, bind] at h ⊢
    cases hadd : (path? arg).bind o.add with
    | none => simp [hadd] at h
    | some o₃ =>
      rw [hadd, Option.bind_some] at h
      obtain ⟨o₃', hs', hrest⟩ := ih h
      obtain ⟨path, hpath, hpathadd⟩ := Option.bind_eq_some_iff.mp hadd
      obtain ⟨o', ho', hswap⟩ := add_before hpathadd hs'
      refine ⟨o', ho', ?_⟩
      rw [hpath, Option.bind_some, hswap, Option.bind_some]
      exact hrest

theorem Accepts.before {o o₁ o₂ : Options} {args : List (List Char)} {s : Setting}
    (h : Accepts o args o₁) (hs : o₁.add s = some o₂) :
    ∃ o', o.add s = some o' ∧ Accepts o' args o₂ := by
  induction h with
  | done o => exact ⟨o₂, hs, .done o₂⟩
  | paths hpaths =>
    obtain ⟨o', ho', hrest⟩ := readPaths_before hpaths hs
    exact ⟨o', ho', .paths hrest⟩
  | limit hvalue hlimit hadd _ ih =>
    obtain ⟨o₃, ho₃, hrest⟩ := ih hs
    obtain ⟨o', ho', hswap⟩ := add_before hadd ho₃
    exact ⟨o', ho', .limit hvalue hlimit hswap hrest⟩
  | single halone hsingle hadd _ ih =>
    obtain ⟨o₃, ho₃, hrest⟩ := ih hs
    obtain ⟨o', ho', hswap⟩ := add_before hadd ho₃
    exact ⟨o', ho', .single halone hsingle hswap hrest⟩

end Gridwalk.Options
