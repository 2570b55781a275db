/-
# What is painted of a text

Every character that is not blank is painted as a box, its ink, and a text is painted ink by ink
in the order of its characters (`paint_eq`).  The inks stand on the pixel map (`inks_inside`) and no
two of them meet (`pairwise_inks`), so a place shows the color of the one ink that has it, and
nothing where there is none (`shows_paint`).

Spans that hold the same glyphs are painted as the same pixel map, and other colors leave every
box where it is (`map_paintedInk_inks`).
-/
import DialogueSheet.Proofs.Raster.Painting
import DialogueSheet.Proofs.Typeset.Rows

namespace DialogueSheet
namespace CellText

/-- The box that is painted for a glyph. -/
structure Ink where
  glyph : Glyph
  left : Nat
  right : Nat
  top : Nat
  bottom : Nat
deriving DecidableEq

/-- A place lies in the box. -/
def Ink.Has (ink : Ink) (x y : Nat) : Prop :=
  ink.left ≤ x ∧ x < ink.right ∧ ink.top ≤ y ∧ y < ink.bottom

/-- The ink of a cell of the line at `row`. -/
def inkOf (height row indent : Nat) (cell : Cell) : Ink :=
  ⟨cell.glyph, indent + cell.left + 1, indent + cell.left + (cell.width - 1),
    row * height + height / 5, row * height + height * 9 / 10⟩

/-- The inks of the cells of a line that are not blank. -/
def lineInks (height row indent : Nat) (line : List Cell) : List Ink :=
  (line.filter fun cell => !Text.isBlank cell.glyph.char).map (inkOf height row indent)

/-- The inks of lines, each `height` high. -/
def inksOf (height : Nat) (align : Align) (lines : List (List Cell)) : List Ink :=
  lines.zipIdx.flatMap fun (line, row) =>
    lineInks height row (indent align (textWidth lines) (lineWidth line)) line

/-- The inks of a request. -/
def inks (r : TextRequest) : List Ink := inksOf (lineHeight r.size) r.align (lines r)

/-- A pixel map shows inks: each of them stands on it, no two of them meet, and a place has the
color of the ink that has it. -/
structure Shows (p : Pixmap) (inks : List Ink) : Prop where
  inside : ∀ ink ∈ inks, ∀ x y, ink.Has x y → x < p.size.width ∧ y < p.size.height
  apart : inks.Pairwise fun a b => ∀ x y, a.Has x y → ¬ b.Has x y
  inked : ∀ ink ∈ inks, ∀ x y, ink.Has x y →
    p.pixel? x y = some (ink.glyph.color.premultiplied 255)
  bare : ∀ x y, x < p.size.width → y < p.size.height → (∀ ink ∈ inks, ¬ ink.Has x y) →
    p.pixel? x y = some Pixel.clear

/-- A span is split in two of its color, two neighbours of a color are merged, or an empty span is
put in. -/
inductive Recut : List Span → List Span → Prop
  | split (before after : List Span) (a b : String) (c : Color) :
    Recut (before ++ ⟨a ++ b, c⟩ :: after) (before ++ ⟨a, c⟩ :: ⟨b, c⟩ :: after)
  | merge (before after : List Span) (a b : String) (c : Color) :
    Recut (before ++ ⟨a, c⟩ :: ⟨b, c⟩ :: after) (before ++ ⟨a ++ b, c⟩ :: after)
  | empty (before after : List Span) (c : Color) :
    Recut (before ++ after) (before ++ ⟨"", c⟩ :: after)

/-! ### Painting ink by ink -/

/-- Paints an ink. -/
def paintInk (p : Pixmap) (ink : Ink) : Pixmap :=
  paintCell p ink.left ink.right ink.top ink.bottom ink.glyph.color

theorem paintLine_eq (height row indent : Nat) (p : Pixmap) (line : List Cell) :
    paintLine height row indent p line = (lineInks height row indent line).foldl paintInk p := by
  rw [lineInks, List.foldl_map, List.foldl_filter, paintLine]
  congr 1
  funext p cell
  cases Text.isBlank cell.glyph.char <;> rfl

/-- An ink without width leaves no trace. -/
theorem paintInk_eq_self {ink : Ink} (h : ink.right ≤ ink.left) (p : Pixmap) :
    paintInk p ink = p := by
  rw [paintInk, paintCell, Nat.sub_eq_zero_of_le h]
  exact Pixmap.foldl_eq_self fun _ _ => rfl

open Pixmap in
theorem repaints_paintInk (p : Pixmap) (ink : Ink) :
    Repaints p (paintInk p ink) ink.Has
      fun below => ((ink.glyph.color.premultiplied 255).mixed? below).getD below := by
  refine (repaints_grid ink.left ink.top fun y _ x _ q _ => ?_).congr fun a b _ _ => ?_
  · exact (repaints_blend q _ _ _ (by decide)).congr fun a b _ _ => by omega
  · unfold Ink.Has
    omega

theorem size_foldl_paintInk (p : Pixmap) (inks : List Ink) :
    (inks.foldl paintInk p).size = p.size :=
  (Pixmap.foldl_outside fun ink _ => ⟨_, fun q _ => repaints_paintInk q ink⟩).1

/-! ### The cells of the lines -/

theorem lineWidth_le_textWidth {lines : List (List Cell)} {line : List Cell} (h : line ∈ lines) :
    lineWidth line ≤ textWidth lines :=
  (foldl_max_le_iff.1 (Nat.le_refl _)).2 _ (List.mem_map_of_mem h)

/-- A line with its indent stands in the width of the text. -/
theorem indent_add_le (align : Align) {width used : Nat} (h : used ≤ width) :
    indent align width used + used ≤ width := by
  cases align with
  | left => rw [indent]; omega
  | center => rw [indent]; omega

theorem cell_le_lineWidth {r : TextRequest} {line : List Cell} {cell : Cell}
    (hline : line ∈ lines r) (hcell : cell ∈ line) :
    cell.left + cell.width ≤ lineWidth line := by
  obtain ⟨rows, hlines, -, -⟩ := exists_rows r
  rw [hlines] at hline
  obtain ⟨row, -, rfl⟩ := List.mem_map.1 hline
  have hle := (mem_cellsFrom hcell).2
  rwa [Nat.zero_add, ← lineWidth_cellsFrom] at hle

/-! ### The inks -/

theorem mem_lineInks {height row indent : Nat} {line : List Cell} {ink : Ink} :
    ink ∈ lineInks height row indent line ↔
      ∃ cell ∈ line, Text.isBlank cell.glyph.char = false ∧ inkOf height row indent cell = ink := by
  simp [lineInks, and_assoc]

theorem mem_inks {r : TextRequest} {ink : Ink} (h : ink ∈ inks r) :
    ∃ line ∈ lines r, ∃ row < (lines r).length, ∃ cell ∈ line,
      ink = inkOf (lineHeight r.size) row
        (indent r.align (textWidth (lines r)) (lineWidth line)) cell := by
  obtain ⟨⟨line, row⟩, hrow, hink⟩ := List.mem_flatMap.1 h
  obtain ⟨cell, hcell, -, rfl⟩ := mem_lineInks.1 hink
  have hlt := (List.mem_zipIdx' hrow).1
  exact ⟨line, List.fst_mem_of_mem_zipIdx hrow, row, hlt, cell, hcell, rfl⟩

/-- Inks stand between the sides of the text and above its end. -/
theorem inks_inside {r : TextRequest} {ink : Ink} (h : ink ∈ inks r) :
    ink.right ≤ textWidth (lines r) ∧ ink.bottom ≤ lineHeight r.size * (lines r).length := by
  obtain ⟨line, hline, row, hrow, cell, hcell, rfl⟩ := mem_inks h
  have hend := cell_le_lineWidth hline hcell
  have hwidth := indent_add_le r.align (lineWidth_le_textWidth hline)
  refine ⟨by simp only [inkOf]; omega, ?_⟩
  calc row * lineHeight r.size + lineHeight r.size * 9 / 10
    _ ≤ row * lineHeight r.size + lineHeight r.size := by omega
    _ = lineHeight r.size * (row + 1) := by rw [Nat.mul_succ, Nat.mul_comm]
    _ ≤ lineHeight r.size * (lines r).length := Nat.mul_le_mul_left _ hrow

/-- Inks of a line stand side by side, and inks of two lines one above the other. -/
theorem pairwise_inks (r : TextRequest) :
    (inks r).Pairwise fun a b => ∀ x y, a.Has x y → ¬ b.Has x y := by
  rw [inks, inksOf, List.pairwise_flatMap]
  constructor
  · rintro ⟨line, row⟩ hline
    obtain ⟨rows, hlines, -, -⟩ := exists_rows r
    obtain ⟨glyphs, -, rfl⟩ := List.mem_map.1 (hlines ▸ List.fst_mem_of_mem_zipIdx hline)
    refine List.pairwise_map.2 ((pairwise_cellsFrom _ 0 glyphs).filter _ |>.imp ?_)
    intro a b hbeside x y ha hb
    simp only [Ink.Has, inkOf] at ha hb
    omega
  · have hrows := List.pairwise_lt_range' (s := 0) (n := (lines r).length) 1
    rw [← List.zipIdx_map_snd, List.pairwise_map] at hrows
    refine hrows.imp ?_
    rintro ⟨line, row⟩ ⟨line', row'⟩ hlt a ha b hb x y hya hyb
    obtain ⟨cell, -, -, rfl⟩ := mem_lineInks.1 ha
    obtain ⟨cell', -, -, rfl⟩ := mem_lineInks.1 hb
    have hnext : (row + 1) * lineHeight r.size ≤ row' * lineHeight r.size :=
      Nat.mul_le_mul_right _ hlt
    rw [Nat.succ_mul] at hnext
    simp only [Ink.Has, inkOf] at hya hyb
    omega

theorem map_glyph_inksOf (height : Nat) (align : Align) (lines : List (List Cell)) :
    (inksOf height align lines).map Ink.glyph =
      (lines.flatten.map Cell.glyph).filter fun g => !Text.isBlank g.char := by
  have hline : ∀ height row indent line, (lineInks height row indent line).map Ink.glyph =
      (line.map Cell.glyph).filter fun g => !Text.isBlank g.char := by
    intro height row indent line
    rw [lineInks, List.map_map, List.filter_map]
    rfl
  rw [inksOf, List.map_flatMap]
  simp only [hline]
  rw [← List.flatMap_map Prod.fst fun line : List Cell =>
      (line.map Cell.glyph).filter fun g => !Text.isBlank g.char, List.zipIdx_map_fst,
    List.flatMap_def, List.map_flatten, List.filter_flatten, List.map_map]
  rfl

/-- Every character that is not blank has its ink. -/
theorem map_glyph_inks (r : TextRequest) :
    (inks r).map Ink.glyph = (glyphs r).filter fun g => !Text.isBlank g.char := by
  obtain ⟨rows, hlines, hbroken, -⟩ := exists_rows r
  have hrows : (lines r).flatten.map Cell.glyph = rows.flatten := by
    rw [hlines, List.map_flatten, List.map_map]
    simp [Function.comp_def, map_glyph_cellsFrom]
  rw [inks, map_glyph_inksOf, hrows, hbroken.flatten_eq, List.filter_filter]
  refine List.filter_congr fun g _ => ?_
  by_cases hfeed : g.char = '\n'
  · rw [hfeed]
    rfl
  · simp [hfeed]

/-! ### The pixel map -/

theorem paint_eq {r : TextRequest} (h : (textSize r).allocatable = true) :
    paint r = .ok ((inks r).foldl paintInk (.blank (textSize r))) := by
  have hmeasure : measure r = .ok (textSize r) := if_pos h
  rw [paint, hmeasure]
  change (if textWidth (lines r) = 0 then Except.ok _ else Except.ok _) = _
  split
  · rename_i hnone
    -- without width no ink has one
    have hnarrow : ∀ ink ∈ inks r, ink.right ≤ ink.left := fun ink hink => by
      have hright := (inks_inside hink).1
      omega
    rw [Pixmap.foldl_eq_self fun ink hink => paintInk_eq_self (hnarrow ink hink) _]
  · rw [inks, inksOf, List.foldl_flatMap]
    simp only [paintLine_eq]

/-- A text that can be painted shows its inks. -/
theorem shows_paint (r : TextRequest) :
    Shows ((inks r).foldl paintInk (.blank (textSize r))) (inks r) := by
  have hsteps : ∀ ink ∈ inks r, ∃ change, ∀ p : Pixmap,
      p.size = (Pixmap.blank (textSize r)).size → p.Repaints (paintInk p ink) ink.Has change :=
    fun ink _ => ⟨_, fun p _ => repaints_paintInk p ink⟩
  obtain ⟨hsize, hout⟩ := Pixmap.foldl_outside hsteps
  have hinside : ∀ ink ∈ inks r, ∀ x y, ink.Has x y →
      x < (textSize r).width ∧ y < (textSize r).height := by
    rintro ink hink x y ⟨hleft, hright, htop, hbottom⟩
    obtain ⟨hwidth, hheight⟩ := inks_inside hink
    have hsize : textSize r =
        ⟨textWidth (lines r), lineHeight r.size * (lines r).length⟩ := if_neg (by omega)
    rw [hsize]
    exact ⟨Nat.lt_of_lt_of_le hright hwidth, Nat.lt_of_lt_of_le hbottom hheight⟩
  refine ⟨?_, pairwise_inks r, ?_, ?_⟩
  · rw [hsize]
    exact hinside
  · intro ink hink x y hhas
    obtain ⟨hx, hy⟩ := hinside ink hink x y hhas
    have hfull := ink.glyph.color.isPremultiplied_premultiplied 255
    rw [Pixmap.foldl_apart hsteps (pairwise_inks r) hink (fun p _ => repaints_paintInk p ink) hhas,
      Pixmap.blank, Pixmap.pixel?_filled _ _ hx hy, Option.map_some,
      Pixel.mixed?_eq_self hfull (.inr rfl), Option.getD_some]
  · rw [hsize]
    intro x y hx hy hnone
    rw [hout x y hnone]
    exact Pixmap.pixel?_filled _ _ hx hy

/-! ### Spans and colors -/

/-- Cutting spans elsewhere leaves the glyphs. -/
theorem glyphs_of_recut {spans spans' : List Span} (h : Recut spans spans') (r : TextRequest) :
    glyphs { r with spans := spans' } = glyphs { r with spans := spans } := by
  cases h <;> simp [glyphs]

theorem paint_congr {r r' : TextRequest} (hglyphs : glyphs r' = glyphs r)
    (hsize : r'.size = r.size) (hwidth : r'.maxWidth = r.maxWidth) (halign : r'.align = r.align) :
    paint r' = paint r := by
  have hlines : lines r' = lines r := by rw [lines, hglyphs, hsize, hwidth, lines]
  have htext : textSize r' = textSize r := by rw [textSize, hlines, hsize, textSize]
  rw [paint, measure, htext, hlines, hsize, halign, paint, measure]

/-- The glyph in another color. -/
def paintedGlyph (c : Color) (g : Glyph) : Glyph := { g with color := c }

/-- The cell in another color. -/
def paintedCell (c : Color) (cell : Cell) : Cell := { cell with glyph := paintedGlyph c cell.glyph }

/-- The ink in another color. -/
def paintedInk (c : Color) (ink : Ink) : Ink := { ink with glyph := paintedGlyph c ink.glyph }

theorem breakFrom_map_paintedGlyph (widthOf : Char → Nat) (maxWidth : Nat) (c : Color)
    (isEmpty : Bool) (used : Nat) (gs : List Glyph) :
    breakFrom widthOf maxWidth isEmpty used (gs.map (paintedGlyph c)) =
      (breakFrom widthOf maxWidth isEmpty used gs).map (List.map (paintedCell c)) := by
  have hpush : ∀ (cell : Cell) (lines : List (List Cell)),
      pushCell (paintedCell c cell) (lines.map (List.map (paintedCell c))) =
        (pushCell cell lines).map (List.map (paintedCell c)) := by
    intro cell lines
    cases lines <;> rfl
  induction gs generalizing isEmpty used with
  | nil => rfl
  | cons g gs ih =>
    rw [List.map_cons, breakFrom, breakFrom]
    change (if g.char = '\n' then _ else _) = _
    split
    · rw [ih]
      rfl
    · change (if !isEmpty && decide (maxWidth < used + widthOf g.char) then _ else _) = _
      split
      · rw [ih, List.map_cons, ← hpush]
        rfl
      · rw [ih, ← hpush]
        rfl

theorem lineWidth_map_paintedCell (c : Color) (line : List Cell) :
    lineWidth (line.map (paintedCell c)) = lineWidth line := by
  rw [lineWidth, List.getLast?_map, lineWidth]
  cases line.getLast? <;> rfl

theorem textWidth_map_paintedCell (c : Color) (lines : List (List Cell)) :
    textWidth (lines.map (List.map (paintedCell c))) = textWidth lines := by
  rw [textWidth, List.map_map, textWidth]
  simp [Function.comp_def, lineWidth_map_paintedCell]

theorem inksOf_map_paintedCell (height : Nat) (align : Align) (c : Color)
    (lines : List (List Cell)) :
    inksOf height align (lines.map (List.map (paintedCell c))) =
      (inksOf height align lines).map (paintedInk c) := by
  have hline : ∀ row indent line, lineInks height row indent (line.map (paintedCell c)) =
      (lineInks height row indent line).map (paintedInk c) := by
    intro row indent line
    rw [lineInks, List.filter_map, List.map_map, lineInks, List.map_map]
    rfl
  rw [inksOf, textWidth_map_paintedCell, List.zipIdx_map, List.flatMap_map, inksOf,
    List.map_flatMap]
  simp [lineWidth_map_paintedCell, hline]

section

variable {r : TextRequest} {spans : List Span}

/-- Spans of the same characters are broken in the same places. -/
theorem map_paintedCell_lines
    (h : (glyphs { r with spans := spans }).map Glyph.char = (glyphs r).map Glyph.char)
    (c : Color) :
    (lines { r with spans := spans }).map (List.map (paintedCell c)) =
      (lines r).map (List.map (paintedCell c)) := by
  have hpainted : ∀ gs : List Glyph, gs.map (paintedGlyph c) = (gs.map Glyph.char).map (⟨·, c⟩) :=
    fun gs => by rw [List.map_map]; rfl
  rw [lines, ← breakFrom_map_paintedGlyph, hpainted, h, ← hpainted, breakFrom_map_paintedGlyph]
  rfl

theorem textSize_recolored
    (h : (glyphs { r with spans := spans }).map Glyph.char = (glyphs r).map Glyph.char) :
    textSize { r with spans := spans } = textSize r := by
  have hlines := map_paintedCell_lines h Color.black
  have hwidth : textWidth (lines { r with spans := spans }) = textWidth (lines r) := by
    rw [← textWidth_map_paintedCell Color.black, hlines, textWidth_map_paintedCell]
  have hlength : (lines { r with spans := spans }).length = (lines r).length := by
    have hlength := congrArg List.length hlines
    rwa [List.length_map, List.length_map] at hlength
  rw [textSize, hwidth, hlength, textSize]

/-- Spans of the same characters are painted in the same boxes. -/
theorem map_paintedInk_inks
    (h : (glyphs { r with spans := spans }).map Glyph.char = (glyphs r).map Glyph.char)
    (c : Color) :
    (inks { r with spans := spans }).map (paintedInk c) = (inks r).map (paintedInk c) := by
  rw [inks, ← inksOf_map_paintedCell, map_paintedCell_lines h, inksOf_map_paintedCell, inks]

end

theorem exists_mem_zip {c : Color} {inks inks' : List Ink}
    (h : inks'.map (paintedInk c) = inks.map (paintedInk c)) {a : Ink} (ha : a ∈ inks) :
    ∃ b, (a, b) ∈ inks.zip inks' ∧ paintedInk c b = paintedInk c a := by
  induction inks generalizing inks' with
  | nil => cases ha
  | cons first inks ih =>
    obtain ⟨first', inks', rfl, hfirst, hrest⟩ := List.map_eq_cons_iff.1 h
    rcases List.mem_cons.1 ha with rfl | ha
    · exact ⟨first', List.mem_cons_self, hfirst⟩
    · obtain ⟨b, hb, hsame⟩ := ih hrest ha
      exact ⟨b, List.mem_cons_of_mem _ hb, hsame⟩

/-- Pixel maps that show the same boxes differ only in boxes that have another color. -/
theorem exists_box_of_pixel_ne {p q : Pixmap} {inks inks' : List Ink} {c : Color}
    (hp : Shows p inks) (hq : Shows q inks') (hsize : q.size = p.size)
    (hboxes : inks'.map (paintedInk c) = inks.map (paintedInk c)) {x y : Nat}
    (hne : q.pixel? x y ≠ p.pixel? x y) :
    ∃ a b, (a, b) ∈ inks.zip inks' ∧ a.Has x y ∧ b.Has x y ∧ a.glyph.char = b.glyph.char ∧
      a.glyph.color ≠ b.glyph.color := by
  have hhas : ∀ {a b : Ink}, paintedInk c b = paintedInk c a → a.Has x y → b.Has x y := by
    intro a b hsame hin
    change (paintedInk c b).Has x y
    rw [hsame]
    exact hin
  by_cases hink : ∃ a ∈ inks, a.Has x y
  · obtain ⟨a, ha, hina⟩ := hink
    obtain ⟨b, hb, hsame⟩ := exists_mem_zip hboxes ha
    have hinb := hhas hsame hina
    refine ⟨a, b, hb, hina, hinb, ?_, fun hcolor => hne ?_⟩
    · exact (congrArg (fun ink => ink.glyph.char) hsame).symm
    · rw [hq.inked b (List.of_mem_zip hb).2 x y hinb, hp.inked a ha x y hina, hcolor]
  · have hnone : ∀ a ∈ inks, ¬ a.Has x y := fun a ha hin => hink ⟨a, ha, hin⟩
    have hnone' : ∀ b ∈ inks', ¬ b.Has x y := by
      intro b hb hin
      obtain ⟨a, ha, hsame⟩ := exists_mem_zip hboxes.symm hb
      exact hnone a (List.of_mem_zip ha).2 (hhas hsame hin)
    refine absurd ?_ hne
    by_cases hplace : x < p.size.width ∧ y < p.size.height
    · rw [hp.bare x y hplace.1 hplace.2 hnone]
      rw [← hsize] at hplace
      exact hq.bare x y hplace.1 hplace.2 hnone'
    · rw [Pixmap.pixel?, Pixmap.pixel?, hsize, if_neg hplace, if_neg hplace]

/-- **Every character has a box of its own.**  A text that can be allocated is painted: its
characters that are not blank stand on the pixel map as boxes that do not meet, and a pixel is clear
or has the color of the box it lies in.  However the spans are cut, the pixel map is the same; in
other colors it has the same size and differs only in the boxes that have another color. -/
theorem paint_inked (r : TextRequest) (h : (textSize r).allocatable = true) :
    ∃ p, paint r = .ok p ∧ p.size = textSize r ∧
      (inks r).map Ink.glyph = ((glyphs r).filter fun g => !Text.isBlank g.char) ∧
      Shows p (inks r) ∧
      (∀ spans, glyphs { r with spans := spans } = glyphs r ∨ Recut r.spans spans →
        paint { r with spans := spans } = .ok p) ∧
      ∀ spans, (glyphs { r with spans := spans }).map Glyph.char = (glyphs r).map Glyph.char →
        ∃ q, paint { r with spans := spans } = .ok q ∧ q.size = p.size ∧
          Shows q (inks { r with spans := spans }) ∧
          ∀ x y, q.pixel? x y ≠ p.pixel? x y →
            ∃ a b, (a, b) ∈ (inks r).zip (inks { r with spans := spans }) ∧ a.Has x y ∧
              b.Has x y ∧ a.glyph.char = b.glyph.char ∧ a.glyph.color ≠ b.glyph.color := by
  refine ⟨_, paint_eq h, size_foldl_paintInk .., map_glyph_inks r, shows_paint r, ?_, ?_⟩
  · intro spans hsame
    have hglyphs : glyphs { r with spans := spans } = glyphs r := by
      rcases hsame with hsame | hrecut
      · exact hsame
      · exact glyphs_of_recut hrecut r
    rw [← paint_eq h]
    exact paint_congr hglyphs rfl rfl rfl
  · intro spans hchars
    have htext := textSize_recolored hchars
    have hsizes : ((inks { r with spans := spans }).foldl paintInk
          (.blank (textSize { r with spans := spans }))).size =
        ((inks r).foldl paintInk (.blank (textSize r))).size := by
      rw [size_foldl_paintInk, htext, size_foldl_paintInk]
    refine ⟨_, paint_eq (by rwa [htext]), hsizes, shows_paint _, fun x y hne => ?_⟩
    exact exists_box_of_pixel_ne (shows_paint r) (shows_paint _) hsizes
      (map_paintedInk_inks hchars Color.black) hne

/-- A letter in red and, behind a blank, one in blue. -/
theorem paint_inked_of_two :
    let r : TextRequest :=
      .rich [⟨"a ", Color.opaqueOf 255 0 0⟩, ⟨"b", Color.opaqueOf 0 0 255⟩] 20
    (textSize r).allocatable = true ∧
      inks r = [⟨⟨'a', Color.opaqueOf 255 0 0⟩, 1, 10, 5, 23⟩,
        ⟨⟨'b', Color.opaqueOf 0 0 255⟩, 23, 32, 5, 23⟩] ∧
      ∃ p, paint r = .ok p ∧ p.size = ⟨33, 26⟩ ∧ p.pixel? 5 13 = some ⟨255, 0, 0, 255⟩ ∧
        p.pixel? 25 13 = some ⟨0, 0, 255, 255⟩ ∧ p.pixel? 16 13 = some .clear := by
  intro r
  have hallocatable : (textSize r).allocatable = true := by decide +kernel
  have hinks : inks r = [⟨⟨'a', Color.opaqueOf 255 0 0⟩, 1, 10, 5, 23⟩,
      ⟨⟨'b', Color.opaqueOf 0 0 255⟩, 23, 32, 5, 23⟩] := by decide +kernel
  have htext : textSize r = ⟨33, 26⟩ := by decide +kernel
  obtain ⟨p, hpaint, hsize, -, hshows, -⟩ := paint_inked r hallocatable
  rw [hinks] at hshows
  rw [htext] at hsize
  refine ⟨hallocatable, hinks, p, hpaint, hsize, ?_, ?_, ?_⟩
  · exact hshows.inked _ List.mem_cons_self 5 13 (by simp [Ink.Has])
  · exact hshows.inked _ (List.mem_cons_of_mem _ List.mem_cons_self) 25 13 (by simp [Ink.Has])
  · exact hshows.bare 16 13 (by simp [hsize]) (by simp [hsize]) (by simp [Ink.Has])

end CellText
end DialogueSheet
