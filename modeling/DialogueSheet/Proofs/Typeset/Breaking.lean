/-
# How wide and how many the lines of a text are

Lines break before they pass the greatest width.  A single character may be wider than
that, so a text is at most as wide as the greater of the two (`textSize_width_le`).

A text whose characters all fit stands on one line exactly when it has no line feed and its
characters together are not wider than the greatest width (`length_breakFrom_eq_one_iff`).
-/
import DialogueSheet.Typeset.Cells
import Mathlib.Algebra.GroupWithZero.Nat

namespace DialogueSheet
namespace CellText

/-! ### Width -/

theorem mem_pushCell {cell c : Cell} {line : List Cell} {lines : List (List Cell)}
    (hline : line ∈ pushCell cell lines) (hc : c ∈ line) :
    c = cell ∨ ∃ line' ∈ lines, c ∈ line' := by
  cases lines with
  | nil =>
    rw [pushCell, List.mem_singleton] at hline
    subst hline
    exact Or.inl (List.mem_singleton.1 hc)
  | cons first rest =>
    rcases List.mem_cons.1 hline with rfl | hline
    · rcases List.mem_cons.1 hc with rfl | hc
      · exact Or.inl rfl
      · exact Or.inr ⟨first, List.mem_cons_self, hc⟩
    · exact Or.inr ⟨line, List.mem_cons_of_mem _ hline, hc⟩

/-- A cell holds a glyph of the text, and ends within the greatest width unless it starts its
line.  The induction is on the glyphs; a line that is still empty has not been used. -/
theorem cell_spec {widthOf : Char → Nat} {maxWidth : Nat} {gs : List Glyph} {isEmpty : Bool}
    {used : Nat} (hempty : isEmpty = true → used = 0) {line : List Cell}
    (hline : line ∈ breakFrom widthOf maxWidth isEmpty used gs) {c : Cell} (hc : c ∈ line) :
    c.glyph ∈ gs ∧ c.width = widthOf c.glyph.char ∧
      (c.left = 0 ∨ c.left + c.width ≤ maxWidth) := by
  induction gs generalizing isEmpty used line with
  | nil =>
    rw [breakFrom, List.mem_singleton] at hline
    simp [hline] at hc
  | cons g gs ih =>
    have hlater : ∀ {isEmpty : Bool} {used : Nat} {line : List Cell},
        (isEmpty = true → used = 0) → line ∈ breakFrom widthOf maxWidth isEmpty used gs →
        c ∈ line → c.glyph ∈ g :: gs ∧ c.width = widthOf c.glyph.char ∧
          (c.left = 0 ∨ c.left + c.width ≤ maxWidth) := fun hempty hline hc =>
      (ih hempty hline hc).imp_left (List.mem_cons_of_mem _)
    rw [breakFrom] at hline
    split at hline
    · rcases List.mem_cons.1 hline with rfl | hline
      · simp at hc
      · exact hlater (fun _ => rfl) hline hc
    split at hline
    · rcases List.mem_cons.1 hline with rfl | hline
      · simp at hc
      · rcases mem_pushCell hline hc with rfl | ⟨line', hline', hc⟩
        · exact ⟨List.mem_cons_self, rfl, Or.inl rfl⟩
        · exact hlater (fun h => Bool.noConfusion h) hline' hc
    · rename_i hfits
      rcases mem_pushCell hline hc with rfl | ⟨line', hline', hc⟩
      · refine ⟨List.mem_cons_self, rfl, ?_⟩
        cases isEmpty with
        | true => exact Or.inl (hempty rfl)
        | false => exact Or.inr (by simpa using hfits)
      · exact hlater (fun h => Bool.noConfusion h) hline' hc

theorem lineWidth_le {line : List Cell} {n : Nat} (h : ∀ c ∈ line, c.left + c.width ≤ n) :
    lineWidth line ≤ n := by
  unfold lineWidth
  split
  · rename_i c hlast
    exact h c (List.mem_of_getLast? hlast)
  · exact Nat.zero_le n

theorem foldl_max_le_iff {n : Nat} {ws : List Nat} {start : Nat} :
    ws.foldl max start ≤ n ↔ start ≤ n ∧ ∀ w ∈ ws, w ≤ n := by
  induction ws generalizing start with
  | nil => simp
  | cons w ws ih =>
    rw [List.foldl_cons, ih, Nat.max_le, List.forall_mem_cons, and_assoc]

/-- A text is at most as wide as the greatest width or its widest character. -/
theorem textSize_width_le {r : TextRequest} {widest : Nat} (hpos : 0 < r.maxWidth)
    (hwidth : ∀ c, advance r.size c ≤ widest) :
    (textSize r).width ≤ max r.maxWidth widest := by
  have hlines : textWidth (lines r) ≤ max r.maxWidth widest := by
    refine foldl_max_le_iff.2 ⟨Nat.zero_le _, fun w hw => ?_⟩
    obtain ⟨line, hline, rfl⟩ := List.mem_map.1 hw
    refine lineWidth_le fun c hc => ?_
    obtain ⟨-, hcell, hleft⟩ := cell_spec (fun _ => rfl) hline hc
    have hwidest := hwidth c.glyph.char
    omega
  unfold textSize
  simp only
  split
  · simp only
    omega
  · exact hlines

theorem lineWidth_pos {line : List Cell} (hline : line ≠ []) (h : ∀ c ∈ line, 0 < c.width) :
    0 < lineWidth line := by
  unfold lineWidth
  split
  · rename_i c hlast
    have hc := h c (List.mem_of_getLast? hlast)
    omega
  · rename_i hlast
    exact absurd (List.getLast?_eq_none_iff.1 hlast) hline

theorem exists_pushCell (cell : Cell) (lines : List (List Cell)) :
    ∃ line ∈ pushCell cell lines, line ≠ [] := by
  cases lines with
  | nil => exact ⟨[cell], List.mem_singleton_self _, by simp⟩
  | cons line lines => exact ⟨cell :: line, List.mem_cons_self, by simp⟩

/-- Everything but line feeds stands on a line. -/
theorem exists_line (widthOf : Char → Nat) (maxWidth : Nat) (isEmpty : Bool) (used : Nat)
    {gs : List Glyph} (h : ∃ g ∈ gs, g.char ≠ '\n') :
    ∃ line ∈ breakFrom widthOf maxWidth isEmpty used gs, line ≠ [] := by
  induction gs generalizing isEmpty used with
  | nil => simp at h
  | cons g gs ih =>
    rw [breakFrom]
    split
    · rename_i hfeed
      have hrest : ∃ g ∈ gs, g.char ≠ '\n' := by simpa [hfeed] using h
      obtain ⟨line, hline, hne⟩ := ih true 0 hrest
      exact ⟨line, List.mem_cons_of_mem _ hline, hne⟩
    split
    · obtain ⟨line, hline, hne⟩ := exists_pushCell ⟨g, 0, widthOf g.char⟩
        (breakFrom widthOf maxWidth false (widthOf g.char) gs)
      exact ⟨line, List.mem_cons_of_mem _ hline, hne⟩
    · exact exists_pushCell _ _

/-- A text with anything but line feeds is as high as its lines together. -/
theorem textSize_height {r : TextRequest} (hpos : ∀ c, 0 < advance r.size c)
    (h : ∃ g ∈ glyphs r, g.char ≠ '\n') :
    (textSize r).height = lineHeight r.size * (lines r).length := by
  obtain ⟨line, hline, hne⟩ := exists_line (advance r.size) r.maxWidth true 0 h
  have hline : line ∈ lines r := hline
  have hwide : 0 < lineWidth line := lineWidth_pos hne fun c hc => by
    rw [(cell_spec (fun _ => rfl) hline hc).2.1]
    exact hpos c.glyph.char
  have hmax : lineWidth line ≤ textWidth (lines r) :=
    (foldl_max_le_iff.1 (Nat.le_refl _)).2 _ (List.mem_map_of_mem hline)
  unfold textSize
  rw [if_neg (by omega)]

/-! ### Lines -/

theorem breakFrom_ne_nil (widthOf : Char → Nat) (maxWidth : Nat) (isEmpty : Bool) (used : Nat)
    (gs : List Glyph) : breakFrom widthOf maxWidth isEmpty used gs ≠ [] := by
  have hpush : ∀ (cell : Cell) (lines : List (List Cell)), pushCell cell lines ≠ [] := by
    intro cell lines
    cases lines <;> simp [pushCell]
  cases gs with
  | nil => simp [breakFrom]
  | cons g gs =>
    rw [breakFrom]
    split
    · simp
    · split
      · simp
      · exact hpush _ _

theorem length_pushCell {cell : Cell} {lines : List (List Cell)} (h : lines ≠ []) :
    (pushCell cell lines).length = lines.length := by
  cases lines with
  | nil => exact absurd rfl h
  | cons line lines => rfl

/-- **One line holds a text** whose characters all fit exactly when it has no line feed and
all of it fits behind what is used. -/
theorem length_breakFrom_eq_one_iff {widthOf : Char → Nat} {maxWidth : Nat} {gs : List Glyph}
    (hfit : ∀ g ∈ gs, widthOf g.char ≤ maxWidth) {isEmpty : Bool} {used : Nat}
    (hempty : isEmpty = true → used = 0) (hused : used ≤ maxWidth) :
    (breakFrom widthOf maxWidth isEmpty used gs).length = 1 ↔
      (∀ g ∈ gs, g.char ≠ '\n') ∧ used + (gs.map fun g => widthOf g.char).sum ≤ maxWidth := by
  induction gs generalizing isEmpty used with
  | nil => simp [breakFrom, hused]
  | cons g gs ih =>
    have hg := hfit g List.mem_cons_self
    have hrest : ∀ h ∈ gs, widthOf h.char ≤ maxWidth := fun h hh =>
      hfit h (List.mem_cons_of_mem _ hh)
    rw [breakFrom]
    simp only [List.forall_mem_cons, List.map_cons, List.sum_cons]
    split
    · rename_i hfeed
      have hlater := List.length_pos_iff.2 (breakFrom_ne_nil widthOf maxWidth true 0 gs)
      constructor
      · intro h
        rw [List.length_cons] at h
        omega
      · rintro ⟨⟨hnot, -⟩, -⟩
        exact absurd hfeed hnot
    · rename_i hfeed
      split
      · rename_i hover
        have hnone := breakFrom_ne_nil widthOf maxWidth false (widthOf g.char) gs
        have hlater := List.length_pos_iff.2 hnone
        simp only [Bool.and_eq_true, Bool.not_eq_true', decide_eq_true_eq] at hover
        rw [List.length_cons, length_pushCell hnone]
        omega
      · rename_i hfits
        have hused' : used + widthOf g.char ≤ maxWidth := by
          cases isEmpty with
          | true =>
            rw [hempty rfl]
            omega
          | false => simpa using hfits
        have hnone := breakFrom_ne_nil widthOf maxWidth false (used + widthOf g.char) gs
        rw [length_pushCell hnone, ih hrest (fun h => Bool.noConfusion h) hused', Nat.add_assoc]
        exact and_congr_left fun _ => ⟨fun h => ⟨hfeed, h⟩, And.right⟩

theorem length_lines_eq_one_iff {r : TextRequest} (hfit : ∀ c, advance r.size c ≤ r.maxWidth) :
    (lines r).length = 1 ↔ (∀ g ∈ glyphs r, g.char ≠ '\n') ∧
      ((glyphs r).map fun g => advance r.size g.char).sum ≤ r.maxWidth := by
  have h := length_breakFrom_eq_one_iff (fun g (_ : g ∈ glyphs r) => hfit g.char)
    (fun _ : true = true => (rfl : 0 = 0)) (Nat.zero_le r.maxWidth)
  rwa [Nat.zero_add] at h

theorem length_lines_pos (r : TextRequest) : 0 < (lines r).length :=
  List.length_pos_iff.2 (breakFrom_ne_nil _ _ _ _ _)

theorem textSize_pos {r : TextRequest} (hline : 0 < lineHeight r.size) :
    0 < (textSize r).width ∧ 0 < (textSize r).height := by
  unfold textSize
  simp only
  split
  · exact ⟨Nat.one_pos, Nat.one_pos⟩
  · rename_i hwidth
    exact ⟨Nat.pos_of_ne_zero hwidth, Nat.mul_pos hline (length_lines_pos r)⟩

end CellText
end DialogueSheet
