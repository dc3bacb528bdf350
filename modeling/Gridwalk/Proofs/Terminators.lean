import Mathlib
import Gridwalk.Proofs.Rows

/-!
# Lines with terminators of several kinds

Lines may end with LF, CR or CR LF, and each may choose for itself: they become the same rows. Two
ends that touch are still two, unless a CR comes to stand right before an LF that is a line end
alone.
-/
namespace Gridwalk

namespace Newline

inductive Terminator where
  | lf
  | cr
  | pair
  deriving DecidableEq, Repr

def Terminator.text : Terminator → List Char
  | lf => ['\n']
  | cr => ['\r']
  | pair => ['\r', '\n']

structure Unbroken (text : List Char) : Prop where
  no_cr : '\r' ∉ text
  no_lf : '\n' ∉ text

instance : DecidablePred Unbroken := fun text =>
  decidable_of_iff ('\r' ∉ text ∧ '\n' ∉ text)
    ⟨fun ⟨hcr, hlf⟩ => ⟨hcr, hlf⟩, fun ⟨hcr, hlf⟩ => ⟨hcr, hlf⟩⟩

structure Line where
  body : List Char
  terminator : Terminator
  unbroken : Unbroken body

namespace Line

def text (line : Line) : List Char := line.body ++ line.terminator.text

def row (line : Line) : List Char := line.body ++ ['\n']

def endedBy (terminator : Terminator) (line : Line) : Line := { line with terminator }

/-- The terminator of the first line and all of the second make up one CR LF pair. -/
def Merges (first second : Line) : Prop :=
  first.terminator = .cr ∧ second.body = [] ∧ second.terminator = .lf

instance : DecidableRel Merges := fun first second =>
  inferInstanceAs (Decidable (first.terminator = .cr ∧ second.body = [] ∧ second.terminator = .lf))

end Line

/-- No line merges with the one before it. -/
def Separate (lines : List Line) : Prop := lines.IsChain fun first second => ¬ first.Merges second

instance : DecidablePred Separate := fun lines =>
  inferInstanceAs (Decidable (lines.IsChain fun first second => ¬ first.Merges second))

/-- The lines of a program and what follows the last of them. -/
def join (lines : List Line) (tail : List Char) : List Char := lines.flatMap Line.text ++ tail

theorem translate_append {body : List Char} (h : '\r' ∉ body) (text : List Char) :
    translate (body ++ text) = body ++ translate text := by
  induction body with
  | nil => rfl
  | cons c body ih =>
    have hc : '\r' ≠ c := List.ne_of_not_mem_cons h
    rw [List.cons_append, translate_cons hc.symm, ih (List.not_mem_of_not_mem_cons h)]
    rfl

theorem translate_terminator {t : Terminator} {text : List Char}
    (h : t = .cr → text.head? ≠ some '\n') :
    translate (t.text ++ text) = '\n' :: translate text := by
  cases t with
  | lf => exact translate_cons (by decide) text
  | cr => exact translate_cr (h rfl)
  | pair => exact translate_pair text

theorem translate_line {line : Line} {text : List Char}
    (h : line.terminator = .cr → text.head? ≠ some '\n') :
    translate (line.text ++ text) = line.row ++ translate text := by
  rw [Line.text, Line.row, List.append_assoc, translate_append line.unbroken.no_cr,
    translate_terminator h, List.append_assoc, List.singleton_append]

theorem head?_line {line : Line} {text : List Char} (h : (line.text ++ text).head? = some '\n') :
    line.body = [] ∧ line.terminator = .lf := by
  obtain ⟨body, terminator, hbody⟩ := line
  cases body with
  | nil => cases terminator <;> simp_all [Line.text, Terminator.text]
  | cons c body =>
    have hc : c = '\n' := Option.some.inj h
    exact absurd (hc ▸ List.mem_cons_self) hbody.no_lf

theorem map_row (lines : List Line) :
    lines.map Line.row = (lines.map Line.body).map (· ++ ['\n']) := by
  rw [List.map_map]
  rfl

theorem translate_join {lines : List Line} {tail : List Char} (h : Separate lines)
    (htail : Unbroken tail) : translate (join lines tail) = lines.flatMap Line.row ++ tail := by
  induction lines with
  | nil => exact translate_of_no_cr htail.no_cr
  | cons line rest ih =>
    have hnext : line.terminator = .cr → (join rest tail).head? ≠ some '\n' := by
      intro hcr hhead
      cases rest with
      | nil => exact htail.no_lf (List.mem_of_head? hhead)
      | cons next rest =>
        have hapart : ¬ line.Merges next := (List.isChain_cons_cons.mp h).1
        rw [join, List.flatMap_cons, List.append_assoc] at hhead
        exact hapart ⟨hcr, head?_line hhead⟩
    have hrest := ih h.tail
    unfold join at hnext hrest ⊢
    rw [List.flatMap_cons, List.append_assoc, translate_line hnext, hrest, List.flatMap_cons,
      List.append_assoc]

theorem cut_unbroken {tail : List Char} (h : Unbroken tail) :
    cut tail = if tail = [] then [] else [tail] := by
  by_cases hnil : tail = []
  · rw [if_pos hnil, hnil, cut_nil]
  · rw [if_neg hnil, cut_open hnil h.no_lf]

/-- Lines that all end in one way do not merge. -/
theorem separate_endedBy (t : Terminator) (lines : List Line) :
    Separate (lines.map (Line.endedBy t)) := by
  have hpairs : (lines.map (Line.endedBy t)).Pairwise fun first second =>
      ¬ first.Merges second := by
    rw [List.pairwise_map]
    refine List.pairwise_of_forall ?_
    rintro first second ⟨hcr, -, hlf⟩
    have hcr' : t = .cr := hcr
    have hlf' : t = .lf := hlf
    simp [hcr'] at hlf'
  exact hpairs.isChain

theorem Separate.cons {line : Line} {lines : List Line} (h : Separate lines) (tail : List Char)
    (hline : line.terminator = .cr → (join lines tail).head? ≠ some '\n') :
    Separate (line :: lines) := by
  cases lines with
  | nil => exact List.isChain_singleton line
  | cons next rest =>
    refine List.isChain_cons_cons.mpr ⟨?_, h⟩
    rintro ⟨hcr, hbody, hlf⟩
    refine hline hcr ?_
    simp [join, Line.text, hbody, hlf, Terminator.text]

/-- Every text is made up of lines that do not merge. -/
theorem exists_lines (text : List Char) :
    ∃ lines tail, Separate lines ∧ Unbroken tail ∧ text = join lines tail := by
  have hempty : Unbroken [] := ⟨List.not_mem_nil, List.not_mem_nil⟩
  induction text using translate.induct with
  | case1 => exact ⟨[], [], .nil, hempty, rfl⟩
  | case2 rest ih =>
    obtain ⟨lines, tail, hlines, htail, rfl⟩ := ih
    exact ⟨⟨[], .pair, hempty⟩ :: lines, tail, hlines.cons tail (by simp), htail, rfl⟩
  | case3 rest hrest ih =>
    obtain ⟨lines, tail, hlines, htail, rfl⟩ := ih
    refine ⟨⟨[], .cr, hempty⟩ :: lines, tail, hlines.cons tail ?_, htail, rfl⟩
    intro _ hhead
    obtain ⟨rest, hjoin⟩ := List.head?_eq_some_iff.mp hhead
    exact hrest rest hjoin
  | case4 c rest _ hcr ih =>
    obtain ⟨lines, tail, hlines, htail, rfl⟩ := ih
    by_cases hlf : c = '\n'
    · rw [hlf]
      exact ⟨⟨[], .lf, hempty⟩ :: lines, tail, hlines.cons tail (by simp), htail, rfl⟩
    · have hmore : ∀ {body : List Char}, Unbroken body → Unbroken (c :: body) := fun h =>
        ⟨List.not_mem_cons_of_ne_of_not_mem (Ne.symm hcr) h.no_cr,
          List.not_mem_cons_of_ne_of_not_mem (Ne.symm hlf) h.no_lf⟩
      cases lines with
      | nil => exact ⟨[], c :: tail, .nil, hmore htail, rfl⟩
      | cons line lines =>
        -- The character comes before the first line, whose end stays as it is.
        refine ⟨⟨c :: line.body, line.terminator, hmore line.unbroken⟩ :: lines, tail, ?_, htail,
          rfl⟩
        cases lines with
        | nil => exact List.isChain_singleton _
        | cons next rest => exact List.isChain_cons_cons.mpr (List.isChain_cons_cons.mp hlines)

end Newline

namespace Grid

open Newline

theorem toRows_parse_join {lines : List Line} {tail : List Char} (h : Separate lines)
    (htail : Unbroken tail) :
    (parse (join lines tail)).toRows = lines.map Line.row ++ if tail = [] then [] else [tail] := by
  have hbodies : ∀ body ∈ lines.map Line.body, '\n' ∉ body := by
    intro body hbody
    obtain ⟨line, -, rfl⟩ := List.mem_map.mp hbody
    exact line.unbroken.no_lf
  have hcut := cut_lines_append hbodies tail
  rw [← map_row, List.flatMap_map] at hcut
  rw [toRows_parse, unify_eq_translate, translate_join h htail, ← cut_unbroken htail]
  exact hcut

/-- Any mixture of terminators, and so any two ways to end the lines of a program. -/
theorem mixed_terminators_parse :
    (∀ lines tail, Separate lines → Unbroken tail →
      (parse (join lines tail)).toRows =
        lines.map (fun line => line.body ++ ['\n']) ++ (if tail = [] then [] else [tail]) ∧
      ∀ lines', Separate lines' → lines'.map Line.body = lines.map Line.body →
        parse (join lines' tail) = parse (join lines tail)) ∧
    ∀ program, ∃ lines tail, Separate lines ∧ Unbroken tail ∧ program = join lines tail ∧
      ∀ terminator,
        let converted := parse (join (lines.map (Line.endedBy terminator)) tail)
        converted = parse program ∧ converted.height = (parse program).height ∧
        converted.rowLength = (parse program).rowLength ∧
        converted.fetch = (parse program).fetch := by
  have hequal : ∀ lines lines' tail, Separate lines → Separate lines' → Unbroken tail →
      lines'.map Line.body = lines.map Line.body →
      parse (join lines' tail) = parse (join lines tail) := by
    intro lines lines' tail hlines hlines' htail hbodies
    have hrows : (parse (join lines' tail)).toRows = (parse (join lines tail)).toRows := by
      rw [toRows_parse_join hlines' htail, toRows_parse_join hlines htail, map_row, map_row,
        hbodies]
    rw [← ofRows_toRows (parse (join lines' tail)), hrows, ofRows_toRows]
  refine ⟨fun lines tail hlines htail => ⟨toRows_parse_join hlines htail, ?_⟩, fun program => ?_⟩
  · exact fun lines' hlines' hbodies => hequal lines lines' tail hlines hlines' htail hbodies
  · obtain ⟨lines, tail, hlines, htail, rfl⟩ := exists_lines program
    refine ⟨lines, tail, hlines, htail, rfl, fun terminator => ?_⟩
    have hbodies : (lines.map (Line.endedBy terminator)).map Line.body = lines.map Line.body := by
      simp [Line.endedBy, Function.comp_def]
    intro converted
    have hsame : converted = parse (join lines tail) :=
      hequal lines _ tail hlines (separate_endedBy terminator lines) htail hbodies
    rw [hsame]
    exact ⟨rfl, rfl, rfl, rfl⟩

/-- A CR before a CR LF pair, two empty lines and a last row that is not ended. -/
theorem mixed_terminators_parse_touching :
    let lines : List Line := [⟨['!'], .cr, by decide⟩, ⟨[], .pair, by decide⟩,
      ⟨[], .lf, by decide⟩, ⟨['+', '.'], .cr, by decide⟩]
    Separate lines ∧ join lines ['@'] = "!\r\r\n\n+.\r@".toList ∧
    (parse "!\r\r\n\n+.\r@".toList).toRows =
      ["!\n".toList, "\n".toList, "\n".toList, "+.\n".toList, "@".toList] := by
  intro lines
  have hlines : Separate lines := by decide
  have hjoin : join lines ['@'] = "!\r\r\n\n+.\r@".toList := by decide
  obtain ⟨hrows, -⟩ := mixed_terminators_parse.1 lines ['@'] hlines (by decide)
  rw [hjoin] at hrows
  exact ⟨hlines, hjoin, hrows⟩

end Grid

end Gridwalk
