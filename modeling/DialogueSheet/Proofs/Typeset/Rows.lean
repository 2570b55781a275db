/-
# The rows of a text set in cells

`Broken mayBreak text rows` says that a text is broken into rows: at every line feed, which goes,
and elsewhere only where `mayBreak` allows it.  A text set in cells is broken before a character
that a row which is not empty has no room for (`Overfull`), only a row of a single character is
wider than the greatest width (`Fits`), and the cells of a row stand side by side
(`exists_rows`).
-/
import DialogueSheet.Proofs.Typeset.Breaking

namespace DialogueSheet
namespace CellText

/-- A text is broken into rows: at its line feeds, which go, and elsewhere where a break is
allowed between a row and the text behind it. -/
inductive Broken (mayBreak : List Glyph → List Glyph → Prop) :
    List Glyph → List (List Glyph) → Prop
  | last {row : List Glyph} (plain : ∀ g ∈ row, g.char ≠ '\n') : Broken mayBreak row [row]
  | feed {row text : List Glyph} {rows : List (List Glyph)} {g : Glyph}
    (plain : ∀ g ∈ row, g.char ≠ '\n') (isFeed : g.char = '\n')
    (later : Broken mayBreak text rows) : Broken mayBreak (row ++ g :: text) (row :: rows)
  | between {row text : List Glyph} {rows : List (List Glyph)}
    (plain : ∀ g ∈ row, g.char ≠ '\n') (allowed : mayBreak row text)
    (later : Broken mayBreak text rows) : Broken mayBreak (row ++ text) (row :: rows)

namespace Broken

variable {mayBreak : List Glyph → List Glyph → Prop} {text : List Glyph} {rows : List (List Glyph)}

theorem mono {mayBreak' : List Glyph → List Glyph → Prop} (h : Broken mayBreak text rows)
    (hbreak : ∀ row text, mayBreak row text → mayBreak' row text) :
    Broken mayBreak' text rows := by
  induction h with
  | last plain => exact .last plain
  | feed plain isFeed _ ih => exact .feed plain isFeed ih
  | between plain allowed _ ih => exact .between plain (hbreak _ _ allowed) ih

/-- The rows hold everything but the line feeds. -/
theorem flatten_eq (h : Broken mayBreak text rows) :
    rows.flatten = text.filter fun g => g.char ≠ '\n' := by
  have hrow : ∀ {row : List Glyph}, (∀ g ∈ row, g.char ≠ '\n') →
      row.filter (fun g => g.char ≠ '\n') = row := fun plain =>
    List.filter_eq_self.2 fun g hg => decide_eq_true (plain g hg)
  induction h with
  | last plain => rw [hrow plain, List.flatten_singleton]
  | feed plain isFeed _ ih =>
    rw [List.flatten_cons, ih, List.filter_append, hrow plain,
      List.filter_cons_of_neg (by simp [isFeed])]
  | between plain _ _ ih => rw [List.flatten_cons, ih, List.filter_append, hrow plain]

end Broken

/-- The width of glyphs side by side. -/
def rowWidth (widthOf : Char → Nat) (row : List Glyph) : Nat :=
  (row.map fun g => widthOf g.char).sum

/-- The cells of glyphs side by side. -/
def cellsFrom (widthOf : Char → Nat) : (left : Nat) → List Glyph → List Cell
  | _, [] => []
  | left, g :: row => ⟨g, left, widthOf g.char⟩ :: cellsFrom widthOf (left + widthOf g.char) row

/-- A line that is not empty has no room for the character behind it. -/
def Overfull (widthOf : Char → Nat) (maxWidth : Nat) (row text : List Glyph) : Prop :=
  row ≠ [] ∧ ∃ g later, text = g :: later ∧ g.char ≠ '\n' ∧
    maxWidth < rowWidth widthOf row + widthOf g.char

/-- Only a line of a single character is wider than the greatest width. -/
def Fits (widthOf : Char → Nat) (maxWidth : Nat) (row : List Glyph) : Prop :=
  maxWidth < rowWidth widthOf row → row.length = 1

variable {widthOf : Char → Nat} {maxWidth : Nat}

/-! ### Rows and their cells -/

theorem rowWidth_cons (g : Glyph) (row : List Glyph) :
    rowWidth widthOf (g :: row) = widthOf g.char + rowWidth widthOf row := by
  rw [rowWidth, List.map_cons, List.sum_cons, rowWidth]

theorem rowWidth_concat (row : List Glyph) (g : Glyph) :
    rowWidth widthOf (row ++ [g]) = rowWidth widthOf row + widthOf g.char := by
  simp [rowWidth]

theorem map_glyph_cellsFrom (left : Nat) (row : List Glyph) :
    (cellsFrom widthOf left row).map Cell.glyph = row := by
  induction row generalizing left with
  | nil => rfl
  | cons g row ih => rw [cellsFrom, List.map_cons, ih]

theorem mem_cellsFrom {left : Nat} {row : List Glyph} {cell : Cell}
    (h : cell ∈ cellsFrom widthOf left row) :
    left ≤ cell.left ∧ cell.left + cell.width ≤ left + rowWidth widthOf row := by
  induction row generalizing left with
  | nil => cases h
  | cons g row ih =>
    rw [rowWidth_cons]
    rcases List.mem_cons.1 h with rfl | h
    · exact ⟨Nat.le_refl _, by simp only; omega⟩
    · have hrest := ih h
      omega

theorem pairwise_cellsFrom (widthOf : Char → Nat) (left : Nat) (row : List Glyph) :
    (cellsFrom widthOf left row).Pairwise fun a b => a.left + a.width ≤ b.left := by
  induction row generalizing left with
  | nil => exact .nil
  | cons g row ih => exact .cons (fun _ hb => (mem_cellsFrom hb).1) (ih _)

/-- A line ends where the widths of its glyphs end. -/
theorem lineWidth_cellsFrom (row : List Glyph) :
    lineWidth (cellsFrom widthOf 0 row) = rowWidth widthOf row := by
  have hlast : ∀ (left : Nat) (g : Glyph) (row : List Glyph),
      lineWidth (cellsFrom widthOf left (g :: row)) = left + rowWidth widthOf (g :: row) := by
    intro left g row
    induction row generalizing left g with
    | nil => rfl
    | cons h row ih =>
      rw [cellsFrom, rowWidth_cons, ← Nat.add_assoc, ← ih]
      rfl
  cases row with
  | nil => rfl
  | cons g row => rw [hlast, Nat.zero_add]

/-! ### The rows of a text -/

/-- What follows a line begun with `row` is broken where rows are overfull.  The induction is on the
glyphs that follow, and carries what the row holds so far. -/
theorem exists_rows_from (row : List Glyph) (text : List Glyph) (hplain : ∀ g ∈ row, g.char ≠ '\n')
    (hfits : Fits widthOf maxWidth row) :
    ∃ rest rows, breakFrom widthOf maxWidth row.isEmpty (rowWidth widthOf row) text =
        cellsFrom widthOf (rowWidth widthOf row) rest :: rows.map (cellsFrom widthOf 0) ∧
      Broken (Overfull widthOf maxWidth) (row ++ text) ((row ++ rest) :: rows) ∧
      ∀ line ∈ (row ++ rest) :: rows, Fits widthOf maxWidth line := by
  induction text generalizing row with
  | nil =>
    refine ⟨[], [], rfl, ?_, ?_⟩
    · rw [List.append_nil]
      exact .last hplain
    · rwa [List.append_nil, List.forall_mem_singleton]
  | cons g text ih =>
    rw [breakFrom]
    split
    · rename_i hfeed
      obtain ⟨rest, rows, hbreak, hbroken, hrows⟩ := ih [] (by simp) (by simp [Fits, rowWidth])
      refine ⟨[], rest :: rows, ?_, ?_, ?_⟩
      · rw [List.map_cons]
        exact congrArg _ hbreak
      · rw [List.append_nil]
        exact .feed hplain hfeed hbroken
      · rw [List.append_nil]
        exact List.forall_mem_cons.2 ⟨hfits, hrows⟩
    rename_i hfeed
    split
    · rename_i hover
      obtain ⟨hne, hwide⟩ : row ≠ [] ∧ maxWidth < rowWidth widthOf row + widthOf g.char := by
        simpa using hover
      obtain ⟨rest, rows, hbreak, hbroken, hrows⟩ := ih [g] (by simpa using hfeed) (by simp [Fits])
      have hwidth : rowWidth widthOf [g] = widthOf g.char := by simp [rowWidth]
      rw [hwidth] at hbreak
      refine ⟨[], ([g] ++ rest) :: rows, ?_, ?_, ?_⟩
      · rw [List.isEmpty_cons] at hbreak
        rw [hbreak]
        simp [pushCell, cellsFrom]
      · rw [List.append_nil]
        exact .between hplain ⟨hne, g, text, rfl, hfeed, hwide⟩ hbroken
      · rw [List.append_nil]
        exact List.forall_mem_cons.2 ⟨hfits, hrows⟩
    · rename_i hroom
      have hplain' : ∀ h ∈ row ++ [g], h.char ≠ '\n' := by
        rw [List.forall_mem_append, List.forall_mem_singleton]
        exact ⟨hplain, hfeed⟩
      have hfits' : Fits widthOf maxWidth (row ++ [g]) := by
        intro hwide
        rw [rowWidth_concat] at hwide
        by_cases hempty : row = []
        · rw [hempty]
          rfl
        · exact absurd (by simpa [hempty] using hwide) hroom
      obtain ⟨rest, rows, hbreak, hbroken, hrows⟩ := ih (row ++ [g]) hplain' hfits'
      have hempty : (row ++ [g]).isEmpty = false := by simp
      rw [rowWidth_concat, hempty] at hbreak
      rw [List.append_assoc] at hbroken hrows
      refine ⟨g :: rest, rows, ?_, by simpa using hbroken, hrows⟩
      rw [hbreak]
      rfl

/-- The lines of a request are its rows, cut where they are overfull. -/
theorem exists_rows (r : TextRequest) :
    ∃ rows, lines r = rows.map (cellsFrom (advance r.size) 0) ∧
      Broken (Overfull (advance r.size) r.maxWidth) (glyphs r) rows ∧
      ∀ row ∈ rows, Fits (advance r.size) r.maxWidth row := by
  have hempty : Fits (advance r.size) r.maxWidth [] := by simp [Fits, rowWidth]
  obtain ⟨rest, rows, hbreak, hbroken, hfits⟩ := exists_rows_from [] (glyphs r) (by simp) hempty
  exact ⟨rest :: rows, hbreak, hbroken, hfits⟩

end CellText
end DialogueSheet
