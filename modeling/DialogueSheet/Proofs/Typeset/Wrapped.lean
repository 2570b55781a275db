/-
# How a text is wrapped

`Wrapped r rows width` says what the rows of a request are: they hold its glyphs without the line
feeds, they are broken at line feeds and where a row is overfull, only a single character is wider
than the greatest width, and the widest of them is `width` wide.  Every request has such rows, and
its pixel map has their size (`exists_wrapped`).
-/
import DialogueSheet.Proofs.Typeset.Inked

namespace DialogueSheet
namespace CellText

/-- The rows of a request, the widest of which is `width` wide. -/
structure Wrapped (r : TextRequest) (rows : List (List Glyph)) (width : Nat) : Prop where
  lines_eq : lines r = rows.map (cellsFrom (advance r.size) 0)
  flatten_eq : rows.flatten = r.spans.flatMap fun span =>
    (span.text.toList.filter (· ≠ '\n')).map fun c => ⟨c, span.color⟩
  broken : Broken (Overfull (advance r.size) r.maxWidth) (glyphs r) rows
  alone : ∀ row ∈ rows, r.maxWidth < rowWidth (advance r.size) row → row.length = 1
  widest : ∀ row ∈ rows, rowWidth (advance r.size) row ≤ width
  attained : ∃ row ∈ rows, rowWidth (advance r.size) row = width

theorem filter_glyphs (r : TextRequest) :
    ((glyphs r).filter fun g => g.char ≠ '\n') = r.spans.flatMap fun span =>
      (span.text.toList.filter (· ≠ '\n')).map fun c => ⟨c, span.color⟩ := by
  rw [glyphs, List.filter_flatMap]
  simp only [List.filter_map]
  rfl

theorem foldl_max_mem (ws : List Nat) (start : Nat) : ws.foldl max start ∈ start :: ws := by
  induction ws generalizing start with
  | nil => exact List.mem_singleton_self _
  | cons w ws ih =>
    rw [List.foldl_cons]
    rcases List.mem_cons.1 (ih (max start w)) with h | h
    · rw [h]
      rcases Nat.le_total start w with hle | hle
      · simp [Nat.max_eq_right hle]
      · simp [Nat.max_eq_left hle]
    · exact List.mem_cons_of_mem _ (List.mem_cons_of_mem _ h)

/-- The text is as wide as one of its lines. -/
theorem exists_lineWidth_eq {lines : List (List Cell)} (h : lines ≠ []) :
    ∃ line ∈ lines, lineWidth line = textWidth lines := by
  rcases List.mem_cons.1 (foldl_max_mem (lines.map lineWidth) 0) with hzero | hmem
  · obtain ⟨line, hline⟩ := List.exists_mem_of_ne_nil lines h
    have hle := lineWidth_le_textWidth hline
    refine ⟨line, hline, ?_⟩
    rw [textWidth, hzero] at hle ⊢
    exact Nat.le_zero.1 hle
  · exact List.mem_map.1 hmem

theorem exists_rows_wrapped (r : TextRequest) : ∃ rows, Wrapped r rows (textWidth (lines r)) := by
  obtain ⟨rows, hlines, hbroken, hfits⟩ := exists_rows r
  have hmem : ∀ row ∈ rows, cellsFrom (advance r.size) 0 row ∈ lines r := fun row hrow => by
    rw [hlines]
    exact List.mem_map_of_mem hrow
  refine ⟨rows, hlines, ?_, hbroken, hfits, fun row hrow => ?_, ?_⟩
  · rw [hbroken.flatten_eq, filter_glyphs]
  · rw [← lineWidth_cellsFrom]
    exact lineWidth_le_textWidth (hmem row hrow)
  · obtain ⟨line, hline, hwidth⟩ := exists_lineWidth_eq (List.length_pos_iff.1 (length_lines_pos r))
    rw [hlines] at hline
    obtain ⟨row, hrow, rfl⟩ := List.mem_map.1 hline
    exact ⟨row, hrow, by rw [← lineWidth_cellsFrom, hwidth]⟩

/-- **Wrapping keeps the text and is greedy.**  The rows of a request hold its characters in order,
each in the color of its span; a text without width is a single clear pixel, and any other is as
wide as its widest row and as high as its rows together. -/
theorem exists_wrapped (r : TextRequest) :
    ∃ rows width, Wrapped r rows width ∧
      (width = 0 → paint r = .ok (.blank ⟨1, 1⟩)) ∧
      (0 < width → ∀ size : Size, size = ⟨width, lineHeight r.size * rows.length⟩ →
        (size.allocatable = true → ∃ p, paint r = .ok p ∧ p.size = size) ∧
        (size.allocatable = false → paint r = .error (.allocation size))) := by
  obtain ⟨rows, hrows⟩ := exists_rows_wrapped r
  refine ⟨rows, textWidth (lines r), hrows, fun hwidth => ?_, ?_⟩
  · have hsize : textSize r = ⟨1, 1⟩ := if_pos hwidth
    rw [paint, measure, hsize]
    exact if_pos hwidth
  · rintro hwidth size rfl
    have hlength : (lines r).length = rows.length := by rw [hrows.lines_eq, List.length_map]
    have hsize : textSize r = ⟨textWidth (lines r), lineHeight r.size * rows.length⟩ := by
      rw [← hlength]
      exact if_neg (Nat.ne_of_gt hwidth)
    rw [← hsize]
    refine ⟨fun h => ⟨_, paint_eq h, size_foldl_paintInk ..⟩, fun h => ?_⟩
    rw [paint, measure, h]
    rfl

end CellText
end DialogueSheet
