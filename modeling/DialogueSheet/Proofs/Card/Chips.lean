/-
# Rows of chips

Chips are placed one behind the other, and each starts a row of its own exactly when it would pass
the limit beside the one before (`Packed`).  What a row does to all that come later is one fact
about the row that has begun (`placeChips_after`): a chip stands in it, further to the right, or
below everything in it.  Set in cells, no text of a chip is too wide for the canvas, so the rows
stay between its sides (`tags_packed`).
-/
import DialogueSheet.Proofs.Card.Sheet
import Mathlib.Data.List.Chain

namespace DialogueSheet
namespace Card

namespace PlacedChip

/-- The right end of a chip. -/
def right (p : PlacedChip) : Nat := p.left + p.chip.size.width

/-- The lower end of a chip. -/
def bottom (p : PlacedChip) : Nat := p.top + p.chip.size.height

/-- The ground of a chip as it is drawn. -/
def ground (p : PlacedChip) : Primitive :=
  .ofShape (.rounded p.chip.size.width p.chip.size.height (Binary.ofNat p.chip.size.height / 2)
    p.chip.fill) p.left p.top

/-- The text of a chip as it is drawn. -/
def label (p : PlacedChip) : Primitive :=
  .ofText p.chip.text (p.left + 12 : Nat) (p.top + 6)

/-- The second chip stands beside the first one. -/
def Beside (a b : PlacedChip) : Prop := b.left = a.right + 8 ∧ b.top = a.top

/-- The second chip starts a row below the first one. -/
def Below (a b : PlacedChip) : Prop := b.left = margin ∧ a.bottom + 8 ≤ b.top

end PlacedChip

/-- A primitive lies inside of another one. -/
structure Inside (p q : Primitive) : Prop where
  left_le : q.left ≤ p.left
  right_le : p.left + p.content.size.width ≤ q.left + q.content.size.width
  top_le : q.top ≤ p.top
  bottom_le : p.bottom ≤ q.bottom

/-- Chips in rows: the first one starts the first row, and each of the others starts a row when it
would pass the limit beside the one before, and only then.  Of two chips, one is to the right in
the same row or lies below. -/
structure Packed (limit : Nat) (chips : List PlacedChip) : Prop where
  start : ∀ a ∈ chips.head?, a.left = margin ∧ a.top = 0
  next : chips.IsChain fun a b =>
    if limit < a.right + 8 + b.chip.size.width then a.Below b else a.Beside b
  apart : chips.Pairwise fun a b => (b.top = a.top ∧ a.right + 8 ≤ b.left) ∨ a.bottom + 8 ≤ b.top

/-! ### Placing chips -/

variable {limit : Nat} {r : ChipRow}

theorem map_chip_placeChips (limit : Nat) (r : ChipRow) (chips : List Chip) :
    (placeChips limit r chips).map PlacedChip.chip = chips := by
  induction chips generalizing r with
  | nil => rfl
  | cons c rest ih => rw [placeChips, List.map_cons, ih]

theorem ChipRow.margin_le_taking (h : margin ≤ r.left) (width : Nat) :
    margin ≤ (r.taking limit width).left := by
  unfold taking
  split
  · exact Nat.le_refl _
  · exact h

theorem ChipRow.margin_le_after (h : margin ≤ r.left) (size : Size) :
    margin ≤ (r.after size).left := by
  simp only [after]
  omega

/-- The row that takes a chip is the one that has begun, or a new one below it. -/
theorem ChipRow.taking_cases (r : ChipRow) (limit width : Nat) :
    (r.taking limit width = r ∧ (r.left ≤ margin ∨ r.left + width ≤ limit)) ∨
      (r.taking limit width = ⟨margin, r.top + r.height + 8, 0⟩ ∧ margin < r.left ∧
        limit < r.left + width) := by
  unfold taking
  split
  · rename_i h
    exact .inr ⟨rfl, h⟩
  · exact .inl ⟨rfl, by omega⟩

/-- Later chips stand in the row that has begun, or below everything in it. -/
theorem placeChips_after {chips : List Chip} {p : PlacedChip} (hp : p ∈ placeChips limit r chips) :
    (p.top = r.top ∧ r.left ≤ p.left) ∨ r.top + r.height + 8 ≤ p.top := by
  induction chips generalizing r with
  | nil => cases hp
  | cons c rest ih =>
    rcases List.mem_cons.1 hp with rfl | hp
    · rcases r.taking_cases limit c.size.width with ⟨hsame, -⟩ | ⟨hnew, -⟩
      · exact .inl (by simp [hsame])
      · exact .inr (by simp [hnew])
    · have hlater := ih hp
      simp only [ChipRow.after] at hlater
      rcases r.taking_cases limit c.size.width with ⟨hsame, -⟩ | ⟨hnew, -⟩
      · rw [hsame] at hlater
        omega
      · rw [hnew] at hlater
        simp only at hlater
        omega

theorem pairwise_placeChips (limit : Nat) (r : ChipRow) (chips : List Chip) :
    (placeChips limit r chips).Pairwise fun a b =>
      (b.top = a.top ∧ a.right + 8 ≤ b.left) ∨ a.bottom + 8 ≤ b.top := by
  induction chips generalizing r with
  | nil => exact .nil
  | cons c rest ih =>
    refine List.pairwise_cons.2 ⟨fun b hb => ?_, ih _⟩
    have hlater := placeChips_after hb
    simp only [ChipRow.after] at hlater
    simp only [PlacedChip.right, PlacedChip.bottom]
    omega

/-- A chip starts a row exactly when it would pass the limit beside the one before. -/
theorem isChain_placeChips (h : margin ≤ r.left) (chips : List Chip) :
    (placeChips limit r chips).IsChain fun a b =>
      if limit < a.right + 8 + b.chip.size.width then a.Below b else a.Beside b := by
  induction chips generalizing r with
  | nil => exact .nil
  | cons c rest ih =>
    have htaken : margin ≤ (r.taking limit c.size.width).left := ChipRow.margin_le_taking h _
    refine List.isChain_cons.2 ⟨fun b hb => ?_, ih (ChipRow.margin_le_after htaken _)⟩
    cases rest with
    | nil => cases hb
    | cons d rest =>
      obtain rfl := Option.some.inj hb
      rcases ((r.taking limit c.size.width).after c.size).taking_cases limit d.size.width with
        ⟨hsame, hfits⟩ | ⟨hnew, -, hover⟩
      · simp only [ChipRow.after] at hfits
        simp only [hsame, PlacedChip.right]
        rw [if_neg (by omega)]
        exact ⟨rfl, rfl⟩
      · simp only [ChipRow.after] at hover
        simp only [hnew, PlacedChip.right]
        rw [if_pos hover]
        refine ⟨rfl, ?_⟩
        simp only [ChipRow.after, PlacedChip.bottom]
        omega

/-- A chip starts its row or ends within the limit. -/
theorem right_le_of_mem_placeChips (h : margin ≤ r.left) {chips : List Chip} {p : PlacedChip}
    (hp : p ∈ placeChips limit r chips) :
    margin ≤ p.left ∧ (p.left = margin ∨ p.right ≤ limit) := by
  induction chips generalizing r with
  | nil => cases hp
  | cons c rest ih =>
    have htaken : margin ≤ (r.taking limit c.size.width).left := ChipRow.margin_le_taking h _
    rcases List.mem_cons.1 hp with rfl | hp
    · refine ⟨htaken, ?_⟩
      rcases r.taking_cases limit c.size.width with ⟨hsame, hfits⟩ | ⟨hnew, -⟩
      · simp only [hsame, PlacedChip.right]
        omega
      · exact .inl (by simp [hnew])
    · exact ih (ChipRow.margin_le_after htaken _) hp

theorem packed_placeChips (limit : Nat) (chips : List Chip) :
    Packed limit (placeChips limit .first chips) where
  start a ha := by
    cases chips with
    | nil => cases ha
    | cons c rest =>
      obtain rfl := Option.some.inj ha
      simp [ChipRow.taking, ChipRow.first]
  next := isChain_placeChips (Nat.le_refl margin) chips
  apart := pairwise_placeChips limit .first chips

/-! ### Chips set in cells -/

/-- The text of a chip, to be set. -/
def chipText (text : String) : TextRequest :=
  (TextRequest.plain text 22 Color.white).withWidth (innerWidth - 24)

/-- A chip with its text set in cells. -/
def cellChip (tag : String × Color) : Chip :=
  ⟨⟨chipText tag.1, CellText.textSize (chipText tag.1)⟩, tag.2⟩

theorem advance_chipText (c : Char) :
    13 ≤ CellText.advance 22 c ∧ CellText.advance 22 c ≤ 22 := by
  have hascii : ((22 : Binary32) * 0.55).ceil.toCount = 13 := by decide +kernel
  have hwide : (22 : Binary32).ceil.toCount = 22 := by decide +kernel
  unfold CellText.advance
  split <;> omega

theorem lineHeight_chipText : CellText.lineHeight 22 = 29 := by decide +kernel

theorem width_chipText_le (text : String) : (CellText.textSize (chipText text)).width ≤ 672 := by
  have hle := CellText.textSize_width_le (r := chipText text) (show 0 < 672 by decide)
    fun c => (advance_chipText c).2
  exact Nat.le_trans hle (show max 672 22 ≤ 672 by decide)

theorem width_cellChip_le (tag : String × Color) : (cellChip tag).size.width ≤ 696 :=
  Nat.add_le_add_right (width_chipText_le tag.1) 24

namespace Subject

variable {s : Subject}

theorem chips_eq (hcells : s.resources.measure = CellText.measure) :
    s.chips = .ok (s.chipTexts.map cellChip) := by
  have hset : ∀ text, s.setText (chipText text) =
      .ok ⟨chipText text, CellText.textSize (chipText text)⟩ := fun text =>
    Resources.setText_of_cells hcells (show 0 < 672 by decide)
      (fun c => Nat.le_trans (advance_chipText c).2 (show 22 ≤ 672 by decide))
      (by rw [show (chipText text).size = 22 from rfl, lineHeight_chipText]; decide)
      (show 672 * 4 ≤ Size.maxRowBytes by decide)
  have hchip : ∀ tags : List (String × Color), (tags.mapM fun tag => do
      let t ← s.setText (chipText tag.1)
      return (⟨t, tag.2⟩ : Chip)) = .ok (tags.map cellChip) := by
    intro tags
    induction tags with
    | nil => rfl
    | cons tag rest ih =>
      rw [List.mapM_cons, ih, hset]
      rfl
  exact hchip s.chipTexts

/-- The chips of a student in their places. -/
def placedChips (s : Subject) : List PlacedChip :=
  placeChips s.chipLimit .first (s.chipTexts.map cellChip)

theorem tags_eq (hcells : s.resources.measure = CellText.measure) :
    ∃ height, s.tags = .ok
        ⟨s.coverIcon 0 ++ s.placedChips.flatMap (fun p => [p.ground, p.label]), height⟩ ∧
      ∀ p ∈ s.placedChips, p.bottom + sectionGap ≤ height := by
  have hdrawn : ∀ p : PlacedChip, p.primitives 0 = [p.ground, p.label] := by
    intro p
    simp [PlacedChip.primitives, Chip.primitives, PlacedChip.ground, PlacedChip.label]
  refine ⟨s.tagsHeight (s.chipTexts.map cellChip) + sectionGap, ?_, fun p hp => ?_⟩
  · simp only [tags, chips_eq hcells, tagsRow, hdrawn]
    rfl
  · have hground : p.ground ∈ p.primitives 0 := by simp [hdrawn]
    have hbottom : p.bottom ≤ _ := placeChips_bottom_le hp hground
    have hheight := (s.le_tagsHeight (s.chipTexts.map cellChip)).1
    omega

theorem chipLimit_eq (s : Subject) : s.chipLimit = if s.student.cover then 652 else 708 := rfl

theorem mem_cellChips {p : PlacedChip} (hp : p ∈ s.placedChips) :
    ∃ tag ∈ s.chipTexts, p.chip = cellChip tag := by
  have hmem : p.chip ∈ s.placedChips.map PlacedChip.chip := List.mem_map_of_mem hp
  rw [placedChips, map_chip_placeChips] at hmem
  obtain ⟨tag, htag, heq⟩ := List.mem_map.1 hmem
  exact ⟨tag, htag, heq.symm⟩

/-- Rows begin at the margin and end before the right one. -/
theorem sides_of_mem_placedChips {p : PlacedChip} (hp : p ∈ s.placedChips) :
    margin ≤ p.left ∧ (p.left = margin ∨ p.right ≤ s.chipLimit) ∧ p.right ≤ 708 := by
  obtain ⟨hleft, hright⟩ := right_le_of_mem_placeChips (Nat.le_refl margin) hp
  obtain ⟨tag, -, hchip⟩ := mem_cellChips hp
  have hwidth := width_cellChip_le tag
  have hlimit : s.chipLimit ≤ 708 := by
    rw [chipLimit_eq]
    split <;> omega
  have hmargin : margin = 12 := rfl
  refine ⟨hleft, hright, ?_⟩
  rw [← hchip] at hwidth
  unfold PlacedChip.right at hright ⊢
  omega

end Subject

theorem PlacedChip.label_inside (p : PlacedChip) : Inside p.label p.ground := by
  constructor <;> simp [label, ground, Primitive.ofText, Primitive.ofShape, Primitive.bottom,
    Content.size, Chip.size] <;> omega

/-- **The chips of a student are packed in rows.**  There is one for every tag whose text is not
empty, in order; no chip passes the right margin, each has its text inside of it, and the section
ends below all of them.  It leaves the same strip wherever it starts. -/
theorem tags_packed {s : Subject} (hcells : s.resources.measure = CellText.measure) :
    ∃ height, s.tags = .ok
        ⟨s.coverIcon 0 ++ s.placedChips.flatMap (fun p => [p.ground, p.label]), height⟩ ∧
      (∀ f, s.placeTags f = f.past <$> s.tags) ∧
      s.placedChips.map PlacedChip.chip = s.chipTexts.map cellChip ∧
      Packed (if s.student.cover then 652 else 708) s.placedChips ∧
      ∀ p ∈ s.placedChips, p.right ≤ 708 ∧ Inside p.label p.ground ∧ p.ground.bottom < height := by
  obtain ⟨height, htags, hheight⟩ := Subject.tags_eq hcells
  refine ⟨height, htags, s.placeTags_eq, map_chip_placeChips .., packed_placeChips ..,
    fun p hp => ?_⟩
  have hbelow : p.bottom + 12 ≤ height := hheight p hp
  refine ⟨(Subject.sides_of_mem_placedChips hp).2.2, p.label_inside, ?_⟩
  show p.bottom < height
  omega

/-- Six tags fit into a row until the cover icon takes some of it; the last one starts another. -/
theorem tags_packed_of_six :
    let s := subjectOf (bare CellText.measure) {}
      { squadType := "Main", tacticRole := "Tanker", position := "Front",
        weaponType := "Machinegun", cover := true } .en
    s.placedChips.map (fun p => (p.left, p.right, p.top)) =
        [(12, 88, 0), (96, 198, 0), (206, 295, 0), (303, 405, 0), (413, 515, 0), (12, 166, 49)] ∧
      s.chipTexts.length = 6 ∧ Packed 652 s.placedChips ∧ ∀ p ∈ s.placedChips, p.right ≤ 708 := by
  intro s
  obtain ⟨height, -, -, -, hpacked, hplaces⟩ := tags_packed (s := s) rfl
  exact ⟨by decide +kernel, by decide +kernel, hpacked, fun p hp => (hplaces p hp).1⟩

end Card
end DialogueSheet
