import Gridwalk.Grid

/-!
# Rows and their text

The rows of a parsed grid are the lines of its text after all line ends have become LF, and
nothing else: put together again they give that text, and every list of such lines is what its
own text is cut into. Making the line ends uniform takes two passes over the text, which do
what one pass from left to right would do.
-/
namespace Gridwalk

namespace Newline

/-- One pass from left to right. A CR with an LF after it and a CR without become one LF. -/
def translate : List Char → List Char
  | [] => []
  | '\r' :: '\n' :: rest => '\n' :: translate rest
  | '\r' :: rest => '\n' :: translate rest
  | c :: rest => c :: translate rest

/-- A row as it stands in a parsed grid. -/
structure IsRow (row : List Char) : Prop where
  nonempty : row ≠ []
  no_cr : '\r' ∉ row
  lf_last : '\n' ∉ row.dropLast

instance (row : List Char) : Decidable (IsRow row) :=
  decidable_of_iff (row ≠ [] ∧ '\r' ∉ row ∧ '\n' ∉ row.dropLast)
    ⟨fun ⟨hne, hcr, hlf⟩ => ⟨hne, hcr, hlf⟩, fun ⟨hne, hcr, hlf⟩ => ⟨hne, hcr, hlf⟩⟩

/-- Rows of which only the last may lack its line end. -/
structure AreRows (rows : List (List Char)) : Prop where
  each : ∀ row ∈ rows, IsRow row
  ended : ∀ row ∈ rows.dropLast, row.getLast? = some '\n'

instance (rows : List (List Char)) : Decidable (AreRows rows) :=
  decidable_of_iff ((∀ row ∈ rows, IsRow row) ∧ ∀ row ∈ rows.dropLast, row.getLast? = some '\n')
    ⟨fun ⟨heach, hended⟩ => ⟨heach, hended⟩, fun ⟨heach, hended⟩ => ⟨heach, hended⟩⟩

theorem translate_pair (rest : List Char) :
    translate ('\r' :: '\n' :: rest) = '\n' :: translate rest := by
  rw [translate]

theorem translate_cr {rest : List Char} (h : rest.head? ≠ some '\n') :
    translate ('\r' :: rest) = '\n' :: translate rest := by
  rw [translate]
  rintro tail rfl
  exact h rfl

theorem translate_cons {c : Char} (h : c ≠ '\r') (rest : List Char) :
    translate (c :: rest) = c :: translate rest := by
  rw [translate]
  · rintro tail rfl
    exact absurd rfl h
  · exact h

/-- Joining the pairs first takes no CR away that the second pass would still need. -/
theorem unify_eq_translate (text : List Char) : unify text = translate text := by
  induction text using translate.induct with
  | case1 => rfl
  | case2 rest ih =>
    rw [translate_pair, ← ih]
    simp [unify, joinPairs]
  | case3 rest hrest ih =>
    have hhead : rest.head? ≠ some '\n' := by
      intro hhead
      obtain ⟨tail, htail⟩ := List.head?_eq_some_iff.mp hhead
      exact hrest tail htail
    rw [translate_cr hhead, ← ih]
    simp [unify, joinPairs, hhead]
  | case4 c rest _ hc ih =>
    have hcr : c ≠ '\r' := hc
    rw [translate_cons hcr, ← ih]
    simp [unify, joinPairs, hcr]

theorem no_cr_translate (text : List Char) : '\r' ∉ translate text := by
  rw [← unify_eq_translate, unify, List.mem_map]
  rintro ⟨c, -, hc⟩
  by_cases h : c = '\r'
  · simp [h] at hc
  · simp [h] at hc

theorem translate_of_no_cr {text : List Char} (h : '\r' ∉ text) : translate text = text := by
  induction text with
  | nil => rfl
  | cons c rest ih =>
    have hc : '\r' ≠ c := List.ne_of_not_mem_cons h
    rw [translate_cons hc.symm, ih (List.not_mem_of_not_mem_cons h)]

/-- A line end closes the row before it, whatever the text after it is cut into. -/
theorem cut_line {body : List Char} (h : '\n' ∉ body) (text : List Char) :
    cut (body ++ '\n' :: text) = (body ++ ['\n']) :: cut text := by
  induction body with
  | nil =>
    rw [List.nil_append, List.nil_append, cut_cons]
    cases cut text with
    | nil => rfl
    | cons row rest => simp [extend]
  | cons c body ih =>
    have hc : '\n' ≠ c := List.ne_of_not_mem_cons h
    rw [List.cons_append, cut_cons, ih (List.not_mem_of_not_mem_cons h)]
    simp [extend, hc.symm]

theorem cut_lines_append {bodies : List (List Char)} (h : ∀ body ∈ bodies, '\n' ∉ body)
    (text : List Char) :
    cut (bodies.flatMap (· ++ ['\n']) ++ text) = bodies.map (· ++ ['\n']) ++ cut text := by
  induction bodies with
  | nil => rfl
  | cons body rest ih =>
    have hrest := ih fun b hb => h b (List.mem_cons_of_mem body hb)
    rw [List.flatMap_cons, List.append_assoc, List.append_assoc, List.singleton_append,
      cut_line (h body List.mem_cons_self), hrest, List.map_cons, List.cons_append]

theorem cut_lines {bodies : List (List Char)} (h : ∀ body ∈ bodies, '\n' ∉ body) :
    cut (bodies.flatMap (· ++ ['\n'])) = bodies.map (· ++ ['\n']) := by
  simpa using cut_lines_append h []

theorem cut_open {body : List Char} (hne : body ≠ []) (h : '\n' ∉ body) : cut body = [body] := by
  induction body with
  | nil => exact absurd rfl hne
  | cons c body ih =>
    have hc : '\n' ≠ c := List.ne_of_not_mem_cons h
    rw [cut_cons]
    by_cases hlast : body = []
    · subst hlast
      rfl
    · rw [ih hlast (List.not_mem_of_not_mem_cons h)]
      simp [extend, hc.symm]

theorem IsRow.singleton {c : Char} (hc : c ≠ '\r') : IsRow [c] where
  nonempty := by simp
  no_cr := by simpa using hc.symm
  lf_last := by simp

theorem IsRow.cons {c : Char} {row : List Char} (h : IsRow row) (hcr : c ≠ '\r')
    (hlf : c ≠ '\n') : IsRow (c :: row) where
  nonempty := by simp
  no_cr := List.not_mem_cons_of_ne_of_not_mem hcr.symm h.no_cr
  lf_last := by
    rw [List.dropLast_cons_of_ne_nil h.nonempty]
    exact List.not_mem_cons_of_ne_of_not_mem hlf.symm h.lf_last

theorem AreRows.extend {c : Char} {rows : List (List Char)} (h : AreRows rows) (hcr : c ≠ '\r') :
    AreRows (extend c rows) := by
  obtain ⟨heach, hended⟩ := h
  cases rows with
  | nil =>
    constructor
    · intro row hrow
      rw [List.mem_singleton.mp hrow]
      exact .singleton hcr
    · simp [Newline.extend]
  | cons first rest =>
    by_cases hlf : c = '\n'
    · -- The text goes on below a row that is nothing but this line end.
      have hrows : Newline.extend c (first :: rest) = ['\n'] :: first :: rest := by
        simp [Newline.extend, hlf]
      rw [hrows]
      constructor
      · intro row hrow
        rcases List.mem_cons.mp hrow with rfl | hrow
        · exact .singleton (by decide)
        · exact heach row hrow
      · intro row hrow
        rw [List.dropLast_cons_of_ne_nil (by simp)] at hrow
        rcases List.mem_cons.mp hrow with rfl | hrow
        · rfl
        · exact hended row hrow
    · have hrows : Newline.extend c (first :: rest) = (c :: first) :: rest := by
        simp [Newline.extend, hlf]
      have hfirst : IsRow first := heach first List.mem_cons_self
      rw [hrows]
      constructor
      · intro row hrow
        rcases List.mem_cons.mp hrow with rfl | hrow
        · exact hfirst.cons hcr hlf
        · exact heach row (List.mem_cons_of_mem first hrow)
      · intro row hrow
        by_cases hrest : rest = []
        · simp [hrest] at hrow
        · rw [List.dropLast_cons_of_ne_nil hrest] at hrow hended
          rcases List.mem_cons.mp hrow with rfl | hrow
          · rw [List.getLast?_cons_of_ne_nil hfirst.nonempty]
            exact hended first List.mem_cons_self
          · exact hended row (List.mem_cons_of_mem first hrow)

theorem areRows_cut {text : List Char} (h : '\r' ∉ text) : AreRows (cut text) := by
  induction text with
  | nil => exact ⟨by simp, by simp⟩
  | cons c rest ih =>
    have hc : '\r' ≠ c := List.ne_of_not_mem_cons h
    exact (ih (List.not_mem_of_not_mem_cons h)).extend hc.symm

theorem IsRow.eq_line {row : List Char} (h : IsRow row) (hlast : row.getLast? = some '\n') :
    ∃ body, '\n' ∉ body ∧ row = body ++ ['\n'] := by
  obtain ⟨body, rfl⟩ := List.getLast?_eq_some_iff.mp hlast
  refine ⟨body, ?_, rfl⟩
  simpa using h.lf_last

/-- A row without a line end holds no LF at all. -/
theorem IsRow.no_lf {row : List Char} (h : IsRow row) (hlast : row.getLast? ≠ some '\n') :
    '\n' ∉ row := by
  intro hmem
  have hsplit := List.dropLast_concat_getLast h.nonempty
  rw [← hsplit, List.mem_append, List.mem_singleton] at hmem
  rcases hmem with hmem | hmem
  · exact h.lf_last hmem
  · exact hlast (by rw [List.getLast?_eq_some_getLast h.nonempty, hmem])

theorem AreRows.tail {row : List Char} {rest : List (List Char)} (h : AreRows (row :: rest)) :
    AreRows rest := by
  refine ⟨fun r hr => h.each r (List.mem_cons_of_mem row hr), fun r hr => h.ended r ?_⟩
  by_cases hrest : rest = []
  · simp [hrest] at hr
  · rw [List.dropLast_cons_of_ne_nil hrest]
    exact List.mem_cons_of_mem row hr

/-- Rows are found again in the text they make up. -/
theorem cut_flatten {rows : List (List Char)} (h : AreRows rows) : cut rows.flatten = rows := by
  induction rows with
  | nil => rfl
  | cons row rest ih =>
    have hrow : IsRow row := h.each row List.mem_cons_self
    rw [List.flatten_cons]
    by_cases hlast : row.getLast? = some '\n'
    · obtain ⟨body, hbody, rfl⟩ := hrow.eq_line hlast
      rw [List.append_assoc, List.singleton_append, cut_line hbody, ih h.tail]
    · -- Only the last of all rows may stay open.
      have hrest : rest = [] := by
        by_cases hne : rest = []
        · exact hne
        · refine absurd (h.ended row ?_) hlast
          rw [List.dropLast_cons_of_ne_nil hne]
          exact List.mem_cons_self
      rw [hrest, List.flatten_nil, List.append_nil, cut_open hrow.nonempty (hrow.no_lf hlast)]

end Newline

namespace Grid

open Newline

theorem areRows_parse (text : List Char) : AreRows (parse text).toRows := by
  rw [toRows_parse, unify_eq_translate]
  exact areRows_cut (no_cr_translate text)

theorem flatten_parse (text : List Char) : (parse text).toRows.flatten = translate text := by
  rw [toRows_parse, flatten_cut, unify_eq_translate]

theorem parse_flatten {rows : List (List Char)} (h : AreRows rows) :
    parse rows.flatten = ofRows rows := by
  have hcr : '\r' ∉ rows.flatten := by
    intro hmem
    obtain ⟨row, hrow, hcr⟩ := List.mem_flatten.mp hmem
    exact (h.each row hrow).no_cr hcr
  unfold parse
  rw [unify_eq_translate, translate_of_no_cr hcr, cut_flatten h]

/-- Parsing and putting rows together are inverse to each other, up to the way in which line
ends are written. -/
theorem parse_splits_exactly :
    (∀ text, AreRows (parse text).toRows ∧ (parse text).toRows.flatten = translate text) ∧
    (∀ rows, AreRows rows → (parse rows.flatten).toRows = rows) ∧
    (∀ text, parse (parse text).toRows.flatten = parse text) ∧
    (∀ a b, parse a = parse b ↔ translate a = translate b) := by
  refine ⟨fun text => ⟨areRows_parse text, flatten_parse text⟩, ?_, ?_, ?_⟩
  · intro rows hrows
    rw [parse_flatten hrows, toRows_ofRows]
  · intro text
    rw [parse_flatten (areRows_parse text), ofRows_toRows]
  · intro a b
    constructor
    · intro h
      rw [← flatten_parse, ← flatten_parse, h]
    · intro h
      unfold parse
      rw [unify_eq_translate, unify_eq_translate, h]

/-- An empty row, a row without a line end, and line ends that run into each other. -/
theorem parse_splits_ragged_rows :
    AreRows ["!.\n".toList, "\n".toList, "@".toList] ∧
    (parse "!.\n\n@".toList).toRows = ["!.\n".toList, "\n".toList, "@".toList] ∧
    translate "!.\r\r\n@".toList = "!.\n\n@".toList ∧
    parse "!.\r\r\n@".toList = parse "!.\n\n@".toList := by
  have hrows : AreRows ["!.\n".toList, "\n".toList, "@".toList] := by decide
  have htranslate : translate "!.\r\r\n@".toList = "!.\n\n@".toList := by rfl
  refine ⟨hrows, parse_splits_exactly.2.1 _ hrows, htranslate, ?_⟩
  exact (parse_splits_exactly.2.2.2 _ _).mpr htranslate

end Grid

end Gridwalk
