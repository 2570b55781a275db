/-
# Breaking in as few lines as can be

A line is broken as late as it can be.  To have used less of the first line never costs a line
and saves at most one (`length_breakFrom_le`), so at most one line is lost against a fresh start
(`length_breakFrom_le_succ`); and a row that fits is filled without a break
(`length_breakFrom_append`).  Row by row, no cut of a text into rows that fit has fewer of them than
the text has lines (`length_lines_le`).

The lines of a narrow text are such a cut for any greater width, so a wider text has no more lines
and is no higher (`lines_fewest`).
-/
import DialogueSheet.Proofs.Typeset.Rows

namespace DialogueSheet
namespace CellText

section

variable {widthOf : Char → Nat} {maxWidth : Nat} {isEmpty : Bool} {used : Nat} {g : Glyph}
  {rest : List Glyph}

/-! ### One character -/

theorem length_breakFrom_feed (h : g.char = '\n') :
    (breakFrom widthOf maxWidth isEmpty used (g :: rest)).length =
      (breakFrom widthOf maxWidth true 0 rest).length + 1 := by
  rw [breakFrom, if_pos h, List.length_cons]

theorem length_breakFrom_over (h : g.char ≠ '\n') (hover : maxWidth < used + widthOf g.char) :
    (breakFrom widthOf maxWidth false used (g :: rest)).length =
      (breakFrom widthOf maxWidth false (widthOf g.char) rest).length + 1 := by
  rw [breakFrom, if_neg h, if_pos (by simpa using hover), List.length_cons,
    length_pushCell (breakFrom_ne_nil _ _ _ _ _)]

theorem length_breakFrom_room (h : g.char ≠ '\n')
    (hroom : isEmpty = true ∨ used + widthOf g.char ≤ maxWidth) :
    (breakFrom widthOf maxWidth isEmpty used (g :: rest)).length =
      (breakFrom widthOf maxWidth false (used + widthOf g.char) rest).length := by
  have hnot : ¬ (!isEmpty && decide (maxWidth < used + widthOf g.char)) = true := by
    simpa [Nat.not_lt, or_iff_not_imp_left] using hroom
  rw [breakFrom, if_neg h, if_neg hnot, length_pushCell (breakFrom_ne_nil _ _ _ _ _)]

end

section

variable {widthOf : Char → Nat} {maxWidth : Nat}

/-! ### Two runs -/

/-- To have used less of the first line costs no line and saves at most one.  The induction is on
the text; where only the run that has used more breaks, the other one is behind by a line and has
used more of its own. -/
theorem length_breakFrom_le {less more : Nat} (h : less ≤ more) (text : List Glyph) :
    (breakFrom widthOf maxWidth false less text).length ≤
        (breakFrom widthOf maxWidth false more text).length ∧
      (breakFrom widthOf maxWidth false more text).length ≤
        (breakFrom widthOf maxWidth false less text).length + 1 := by
  induction text generalizing less more with
  | nil => exact ⟨Nat.le_refl 1, Nat.le_succ 1⟩
  | cons g rest ih =>
    by_cases hfeed : g.char = '\n'
    · rw [length_breakFrom_feed hfeed, length_breakFrom_feed hfeed]
      exact ⟨Nat.le_refl _, Nat.le_succ _⟩
    rcases Nat.lt_or_ge maxWidth (more + widthOf g.char) with hmore | hmore
    · rcases Nat.lt_or_ge maxWidth (less + widthOf g.char) with hless | hless
      · rw [length_breakFrom_over hfeed hless, length_breakFrom_over hfeed hmore]
        exact ⟨Nat.le_refl _, Nat.le_succ _⟩
      · rw [length_breakFrom_room hfeed (.inr hless), length_breakFrom_over hfeed hmore]
        obtain ⟨hle, hsucc⟩ := ih (Nat.le_add_left (widthOf g.char) less)
        exact ⟨hsucc, Nat.succ_le_succ hle⟩
    · rw [length_breakFrom_room hfeed (.inr (by omega)), length_breakFrom_room hfeed (.inr hmore)]
      exact ih (Nat.add_le_add_right h _)

/-- A fresh line saves at most one line. -/
theorem length_breakFrom_le_succ (isEmpty : Bool) (used : Nat) (text : List Glyph) :
    (breakFrom widthOf maxWidth isEmpty used text).length ≤
      (breakFrom widthOf maxWidth true 0 text).length + 1 := by
  cases text with
  | nil => exact Nat.le_succ 1
  | cons g rest =>
    by_cases hfeed : g.char = '\n'
    · rw [length_breakFrom_feed hfeed, length_breakFrom_feed hfeed]
      exact Nat.le_succ _
    have hfresh : (breakFrom widthOf maxWidth true 0 (g :: rest)).length =
        (breakFrom widthOf maxWidth false (0 + widthOf g.char) rest).length :=
      length_breakFrom_room hfeed (.inl rfl)
    rw [hfresh, Nat.zero_add]
    by_cases hroom : isEmpty = true ∨ used + widthOf g.char ≤ maxWidth
    · rw [length_breakFrom_room hfeed hroom]
      exact (length_breakFrom_le (Nat.le_add_left _ used) rest).2
    · obtain ⟨hopen, hover⟩ := not_or.1 hroom
      rw [Bool.not_eq_true] at hopen
      rw [hopen]
      exact Nat.le_of_eq (length_breakFrom_over hfeed (Nat.lt_of_not_le hover))

/-! ### Row by row -/

/-- A row that fits is filled without a break.  The induction is on what is left of the row. -/
theorem length_breakFrom_append (filled left text : List Glyph)
    (hplain : ∀ g ∈ left, g.char ≠ '\n') (hfits : Fits widthOf maxWidth (filled ++ left)) :
    (breakFrom widthOf maxWidth filled.isEmpty (rowWidth widthOf filled) (left ++ text)).length =
      (breakFrom widthOf maxWidth (filled ++ left).isEmpty (rowWidth widthOf (filled ++ left))
        text).length := by
  induction left generalizing filled with
  | nil => rw [List.append_nil, List.nil_append]
  | cons g left ih =>
    obtain ⟨hg, hplain⟩ := List.forall_mem_cons.1 hplain
    have hroom : filled.isEmpty = true ∨ rowWidth widthOf filled + widthOf g.char ≤ maxWidth := by
      rw [List.isEmpty_iff]
      rcases Nat.lt_or_ge maxWidth (rowWidth widthOf filled + widthOf g.char) with hover | hroom
      · have hwide : maxWidth < rowWidth widthOf (filled ++ g :: left) := by
          simp only [rowWidth, List.map_append, List.map_cons, List.sum_append,
            List.sum_cons] at hover ⊢
          omega
        have hlength := hfits hwide
        rw [List.length_append, List.length_cons] at hlength
        exact .inl (List.length_eq_zero_iff.1 (by omega))
      · exact .inr hroom
    rw [← List.singleton_append, ← List.append_assoc] at hfits
    have hrest := ih (filled ++ [g]) hplain hfits
    have hopen : (filled ++ [g]).isEmpty = false := by simp
    rw [rowWidth_concat, hopen] at hrest
    rw [List.cons_append, length_breakFrom_room hg hroom, hrest, List.append_assoc,
      List.singleton_append]

/-- No cut of a text into rows that fit has fewer of them than the text has lines. -/
theorem length_breakFrom_le_of_broken {mayBreak : List Glyph → List Glyph → Prop}
    {text : List Glyph} {rows : List (List Glyph)} (h : Broken mayBreak text rows)
    (hfits : ∀ row ∈ rows, Fits widthOf maxWidth row) :
    (breakFrom widthOf maxWidth true 0 text).length ≤ rows.length := by
  have hrow : ∀ {row : List Glyph}, (∀ g ∈ row, g.char ≠ '\n') → Fits widthOf maxWidth row →
      ∀ text, (breakFrom widthOf maxWidth true 0 (row ++ text)).length =
        (breakFrom widthOf maxWidth row.isEmpty (rowWidth widthOf row) text).length :=
    fun plain fits text => length_breakFrom_append [] _ text plain fits
  induction h with
  | last plain =>
    have hfilled := hrow plain (hfits _ List.mem_cons_self) []
    rw [List.append_nil] at hfilled
    exact Nat.le_of_eq hfilled
  | feed plain isFeed _ ih =>
    obtain ⟨hfirst, hfits⟩ := List.forall_mem_cons.1 hfits
    rw [hrow plain hfirst, length_breakFrom_feed isFeed]
    exact Nat.succ_le_succ (ih hfits)
  | between plain _ _ ih =>
    obtain ⟨hfirst, hfits⟩ := List.forall_mem_cons.1 hfits
    rw [hrow plain hfirst]
    exact Nat.le_trans (length_breakFrom_le_succ ..) (Nat.succ_le_succ (ih hfits))

end

/-! ### Texts -/

theorem length_lines_le {r : TextRequest} {mayBreak : List Glyph → List Glyph → Prop}
    {rows : List (List Glyph)} (h : Broken mayBreak (glyphs r) rows)
    (hfits : ∀ row ∈ rows, Fits (advance r.size) r.maxWidth row) :
    (lines r).length ≤ rows.length :=
  length_breakFrom_le_of_broken h hfits

theorem rowWidth_eq_zero_iff {widthOf : Char → Nat} {row : List Glyph} :
    rowWidth widthOf row = 0 ↔ ∀ g ∈ row, widthOf g.char = 0 := by
  induction row with
  | nil => simp [rowWidth]
  | cons g row ih => rw [rowWidth_cons, Nat.add_eq_zero_iff, ih, List.forall_mem_cons]

/-- Whether a text has width does not hang on where it is broken. -/
theorem textWidth_eq_zero_iff (r : TextRequest) :
    textWidth (lines r) = 0 ↔ ∀ g ∈ glyphs r, g.char ≠ '\n' → advance r.size g.char = 0 := by
  obtain ⟨rows, hlines, hbroken, -⟩ := exists_rows r
  have hrows : textWidth (lines r) = 0 ↔ ∀ row ∈ rows, rowWidth (advance r.size) row = 0 := by
    rw [← Nat.le_zero, textWidth, foldl_max_le_iff, hlines]
    simp [lineWidth_cellsFrom]
  have hmem : ∀ g, g ∈ rows.flatten ↔ g ∈ glyphs r ∧ g.char ≠ '\n' := by
    simp [hbroken.flatten_eq]
  simp only [hrows, rowWidth_eq_zero_iff]
  constructor
  · intro hzero g hg hplain
    obtain ⟨row, hrow, hg⟩ := List.mem_flatten.1 ((hmem g).2 ⟨hg, hplain⟩)
    exact hzero row hrow g hg
  · intro hzero row hrow g hg
    obtain ⟨hg, hplain⟩ := (hmem g).1 (List.mem_flatten.2 ⟨row, hrow, hg⟩)
    exact hzero g hg hplain

/-- **A wider text is no higher, and none has more lines than it must.**  The lines at a width are
themselves a cut into rows that fit, and every such cut has at least as many. -/
theorem lines_fewest (r : TextRequest) {narrow wide : Nat} (h : narrow ≤ wide) :
    (lines { r with maxWidth := wide }).length ≤ (lines { r with maxWidth := narrow }).length ∧
      (textSize { r with maxWidth := wide }).height ≤
        (textSize { r with maxWidth := narrow }).height ∧
      (∃ rows, Broken (fun _ _ => True) (glyphs r) rows ∧
        (∀ row ∈ rows, Fits (advance r.size) narrow row) ∧
        rows.length = (lines { r with maxWidth := narrow }).length) ∧
      ∀ rows, Broken (fun _ _ => True) (glyphs r) rows →
        (∀ row ∈ rows, Fits (advance r.size) narrow row) →
        (lines { r with maxWidth := narrow }).length ≤ rows.length := by
  obtain ⟨rows, hlines, hbroken, hfits⟩ := exists_rows { r with maxWidth := narrow }
  have hlength : rows.length = (lines { r with maxWidth := narrow }).length := by
    rw [hlines, List.length_map]
  have hwider : ∀ row ∈ rows, Fits (advance r.size) wide row := fun row hrow hover =>
    hfits row hrow (Nat.lt_of_le_of_lt h hover)
  have hfewer : (lines { r with maxWidth := wide }).length ≤
      (lines { r with maxWidth := narrow }).length := by
    rw [← hlength]
    exact length_lines_le (r := { r with maxWidth := wide }) hbroken hwider
  refine ⟨hfewer, ?_, ⟨rows, hbroken.mono fun _ _ _ => trivial, hfits, hlength⟩,
    fun rows hcut hall => length_lines_le (r := { r with maxWidth := narrow }) hcut hall⟩
  have hwidth : textWidth (lines { r with maxWidth := wide }) = 0 ↔
      textWidth (lines { r with maxWidth := narrow }) = 0 :=
    (textWidth_eq_zero_iff _).trans (textWidth_eq_zero_iff { r with maxWidth := narrow }).symm
  unfold textSize
  simp only [hwidth]
  split
  · exact Nat.le_refl 1
  · exact Nat.mul_le_mul_left _ hfewer

/-- Five letters, two of which fit side by side: no cut has fewer than three rows. -/
theorem lines_fewest_of_five :
    let r := TextRequest.plain "abcde" 20 Color.black
    22 ≤ 33 ∧ (lines { r with maxWidth := 22 }).length = 3 ∧
      (lines { r with maxWidth := 33 }).length ≤ 3 ∧
      ∀ rows, Broken (fun _ _ => True) (glyphs r) rows →
        (∀ row ∈ rows, Fits (advance r.size) 22 row) → 3 ≤ rows.length := by
  intro r
  have hlength : (lines { r with maxWidth := 22 }).length = 3 := by decide +kernel
  obtain ⟨hfewer, -, -, hfewest⟩ := lines_fewest r (by decide : 22 ≤ 33)
  rw [hlength] at hfewer hfewest
  exact ⟨by decide, hlength, hfewer, hfewest⟩

end CellText
end DialogueSheet
