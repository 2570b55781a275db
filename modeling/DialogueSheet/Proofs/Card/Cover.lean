/-
# Chips and the cover icon

The first chip of a row is never moved, however wide it is, so a row may begin with a chip that
reaches the cover icon at its end.  A chip whose text has a cell is high enough to keep every row
below it clear of the icon, so it all hangs on the first of these: the chips keep clear exactly when
it ends before the icon (`chips_clear_iff`).  A tag of forty-nine letters does not
(`chip_under_cover`).
-/
import DialogueSheet.Proofs.Card.Chips
import DialogueSheet.Proofs.Typeset.Fewest

namespace DialogueSheet
namespace Card

/-- A placed chip meets the place of the cover icon. -/
def PlacedChip.UnderCover (p : PlacedChip) : Prop :=
  p.left < Subject.coverLeft + iconSide ∧ Subject.coverLeft < p.right ∧
    p.top < iconSide ∧ 0 < p.bottom

instance (p : PlacedChip) : Decidable p.UnderCover :=
  inferInstanceAs (Decidable (p.left < Subject.coverLeft + iconSide ∧
    Subject.coverLeft < p.right ∧ p.top < iconSide ∧ 0 < p.bottom))

/-- Some character of a text fills a cell: line feeds do not. -/
def hasCell (text : String) : Bool := text.toList.any (· ≠ '\n')

/-! ### The sizes of chips -/

theorem hasCell_iff {text : String} :
    hasCell text = true ↔ ∃ g ∈ CellText.glyphs (chipText text), g.char ≠ '\n' := by
  simp [hasCell, chipText, CellText.glyphs, TextRequest.withWidth, TextRequest.plain,
    TextRequest.rich]

/-- A text without a cell leaves a chip of one pixel and the rim. -/
theorem size_cellChip_of_no_cell {tag : String × Color} (h : hasCell tag.1 = false) :
    (cellChip tag).size = ⟨25, 13⟩ := by
  have hnone : ∀ g ∈ CellText.glyphs (chipText tag.1), g.char = '\n' := by
    have hnot := mt hasCell_iff.2 (Bool.eq_false_iff.1 h)
    simpa using hnot
  have hwidth : CellText.textWidth (CellText.lines (chipText tag.1)) = 0 :=
    (CellText.textWidth_eq_zero_iff _).2 fun g hg hplain => absurd (hnone g hg) hplain
  have hsize : CellText.textSize (chipText tag.1) = ⟨1, 1⟩ := if_pos hwidth
  simp [Chip.size, cellChip, hsize]

/-- A text with a cell is at least one line high. -/
theorem le_height_cellChip {tag : String × Color} (h : hasCell tag.1 = true) :
    41 ≤ (cellChip tag).size.height := by
  have hheight := CellText.textSize_height (r := chipText tag.1)
    (fun c => Nat.lt_of_lt_of_le (by decide) (advance_chipText c).1) (hasCell_iff.1 h)
  have hline : CellText.lineHeight (chipText tag.1).size = 29 := lineHeight_chipText
  have hlines := CellText.length_lines_pos (chipText tag.1)
  rw [hline] at hheight
  simp only [Chip.size, cellChip]
  omega

/-! ### Chips behind small ones -/

/-- A chip behind small ones that all fit stands in their row, or in the one below. -/
theorem exists_mem_placeChips {limit : Nat} {r : ChipRow} {small : List Chip} (c : Chip)
    (rest : List Chip) (hsmall : ∀ d ∈ small, d.size = ⟨25, 13⟩)
    (hfit : r.left + 33 * small.length ≤ limit) :
    ∃ p ∈ placeChips limit r (small ++ c :: rest),
      p.chip = c ∧ p.top ≤ r.top + max r.height 13 + 8 := by
  induction small generalizing r with
  | nil =>
    refine ⟨_, List.mem_cons_self, rfl, ?_⟩
    rcases r.taking_cases limit c.size.width with ⟨hsame, -⟩ | ⟨hnew, -⟩
    · simp only [hsame]
      omega
    · simp only [hnew]
      omega
  | cons d small ih =>
    have hd := hsmall d List.mem_cons_self
    rw [List.length_cons] at hfit
    have hsame : r.taking limit d.size.width = r := by
      rcases r.taking_cases limit d.size.width with ⟨hsame, -⟩ | ⟨-, -, hover⟩
      · exact hsame
      · simp only [hd] at hover
        omega
    have hfit' : (r.after d.size).left + 33 * small.length ≤ limit := by
      simp only [ChipRow.after, hd]
      omega
    obtain ⟨p, hp, hchip, htop⟩ := ih (fun e he => hsmall e (List.mem_cons_of_mem _ he)) hfit'
    refine ⟨p, ?_, hchip, ?_⟩
    · rw [List.cons_append, placeChips, hsame]
      exact List.mem_cons_of_mem _ hp
    · simp only [ChipRow.after, hd] at htop
      omega

namespace Subject

variable {s : Subject}

/-- The first tag whose text has a cell. -/
def firstTag? (s : Subject) : Option (String × Color) :=
  s.chipTexts.find? fun tag => hasCell tag.1

theorem length_chipTexts_le (s : Subject) : s.chipTexts.length ≤ 6 :=
  List.length_filter_le _ _

/-- Only a wide chip that begins its row meets the cover icon. -/
theorem wide_of_underCover (hlimit : s.chipLimit = 652) {p : PlacedChip} (hp : p ∈ s.placedChips)
    (hunder : p.UnderCover) : p.left = 12 ∧ 648 < p.chip.size.width := by
  obtain ⟨-, hright, -⟩ := hunder
  obtain ⟨-, hrow, -⟩ := sides_of_mem_placedChips hp
  have hcoverLeft : coverLeft = 660 := rfl
  have hleft : p.left = 12 := hrow.resolve_right (by omega)
  refine ⟨hleft, ?_⟩
  simp only [PlacedChip.right] at hright
  omega

/-- The chips split where the tags do. -/
theorem exists_placedChips_eq {before after : List (String × Color)} {first : String × Color}
    (hsplit : s.chipTexts = before ++ first :: after) :
    ∃ above q below, s.placedChips = above ++ q :: below ∧ q.chip = cellChip first ∧
      ∀ p ∈ above, ∃ tag ∈ before, p.chip = cellChip tag := by
  have hchips : s.placedChips.map PlacedChip.chip =
      before.map cellChip ++ cellChip first :: after.map cellChip := by
    rw [placedChips, map_chip_placeChips, hsplit, List.map_append, List.map_cons]
  obtain ⟨above, others, hplaced, habove, hothers⟩ := List.map_eq_append_iff.1 hchips
  obtain ⟨q, below, rfl, hq, -⟩ := List.map_eq_cons_iff.1 hothers
  refine ⟨above, q, below, hplaced, hq, fun p hp => ?_⟩
  have hmem : p.chip ∈ before.map cellChip := habove ▸ List.mem_map_of_mem hp
  obtain ⟨tag, htag, htagchip⟩ := List.mem_map.1 hmem
  exact ⟨tag, htag, htagchip.symm⟩

/-- No chip meets the cover icon if the first one with a cell is narrow: those before it are small,
and those behind it stand beside it or below the icon. -/
theorem not_underCover_of_narrow (hlimit : s.chipLimit = 652) {first : String × Color}
    (hfirst : s.firstTag? = some first) (hnarrow : (cellChip first).size.width ≤ 648)
    {p : PlacedChip} (hp : p ∈ s.placedChips) : ¬ p.UnderCover := by
  intro hunder
  obtain ⟨hleft, hwide⟩ := wide_of_underCover hlimit hp hunder
  obtain ⟨hcell, before, after, hsplit, hbefore⟩ := List.find?_eq_some_iff_append.1 hfirst
  obtain ⟨above, q, below, hplaced, hq, habove⟩ := exists_placedChips_eq hsplit
  have hmem := hp
  rw [hplaced, List.mem_append, List.mem_cons] at hmem
  rcases hmem with hmem | rfl | hmem
  · obtain ⟨tag, htag, hchip⟩ := habove p hmem
    rw [hchip, size_cellChip_of_no_cell (by simpa using hbefore tag htag)] at hwide
    exact absurd hwide (by decide)
  · rw [hq] at hwide
    omega
  · have hpairs : s.placedChips.Pairwise _ := pairwise_placeChips ..
    rw [hplaced] at hpairs
    have hapart := (List.pairwise_cons.1 (List.pairwise_append.1 hpairs).2.1).1 p hmem
    have hqmem : q ∈ s.placedChips := by simp [hplaced]
    have hqleft : 12 ≤ q.left := (sides_of_mem_placedChips hqmem).1
    have hheight : 41 ≤ q.chip.size.height := hq ▸ le_height_cellChip hcell
    have htop : p.top < 48 := hunder.2.2.1
    simp only [PlacedChip.right, PlacedChip.bottom] at hapart
    omega

/-- The first chip with a cell meets the cover icon if it is wide: it begins the first row, or the
one below the small chips before it. -/
theorem exists_underCover_of_wide (hlimit : s.chipLimit = 652) {first : String × Color}
    (hfirst : s.firstTag? = some first) (hwide : 648 < (cellChip first).size.width) :
    ∃ p ∈ s.placedChips, p.UnderCover := by
  obtain ⟨hcell, before, after, hsplit, hbefore⟩ := List.find?_eq_some_iff_append.1 hfirst
  have hlength : before.length ≤ 5 := by
    have hle := s.length_chipTexts_le
    rw [hsplit, List.length_append, List.length_cons] at hle
    omega
  have hsmall : ∀ d ∈ before.map cellChip, d.size = ⟨25, 13⟩ := by
    intro d hd
    obtain ⟨tag, htag, rfl⟩ := List.mem_map.1 hd
    exact size_cellChip_of_no_cell (by simpa using hbefore tag htag)
  have hfit : ChipRow.first.left + 33 * (before.map cellChip).length ≤ s.chipLimit := by
    have hleft : ChipRow.first.left = 12 := rfl
    rw [List.length_map]
    omega
  obtain ⟨p, hp, hchip, htop⟩ :=
    exists_mem_placeChips (cellChip first) (after.map cellChip) hsmall hfit
  rw [← List.map_cons, ← List.map_append, ← hsplit] at hp
  obtain ⟨hleft, hrow, -⟩ := sides_of_mem_placedChips hp
  have hheight := le_height_cellChip hcell
  rw [← hchip] at hwide hheight
  have hplaces : margin = 12 ∧ coverLeft = 660 ∧ iconSide = 48 := ⟨rfl, rfl, rfl⟩
  have htop : p.top ≤ 21 := htop
  refine ⟨p, hp, ?_⟩
  simp only [PlacedChip.UnderCover, PlacedChip.right, PlacedChip.bottom] at hrow ⊢
  omega

end Subject

/-- **Chips keep clear of the cover icon exactly when the first one with a cell ends before the icon
where it begins a row.**  The icon stands at the end of the first row. -/
theorem chips_clear_iff {s : Subject} (hcells : s.resources.measure = CellText.measure)
    (hcover : s.student.cover = true) {icon : Picture}
    (hicon : s.icon? .ui "Cover" ⟨iconSide, iconSide⟩ = some icon) :
    icon.size.width ≤ iconSide ∧ icon.size.height ≤ iconSide ∧
      (∃ height, s.tags = .ok
        ⟨.ofPicture icon Subject.coverLeft 0 ::
          s.placedChips.flatMap (fun p => [p.ground, p.label]), height⟩) ∧
      (∀ f, s.placeTags f = f.past <$> s.tags) ∧
      ((∀ p ∈ s.placedChips, ¬ p.UnderCover) ↔
        ∀ first ∈ s.firstTag?, margin + (cellChip first).size.width ≤ Subject.coverLeft) := by
  obtain ⟨hwidth, hheight⟩ := Subject.icon_le hicon (by decide)
  obtain ⟨height, htags, -⟩ := Subject.tags_eq hcells
  have hpicture : s.coverIcon 0 = [.ofPicture icon Subject.coverLeft 0] := by
    simp [Subject.coverIcon, hcover, hicon]
  rw [hpicture] at htags
  have hlimit : s.chipLimit = 652 := by rw [Subject.chipLimit_eq, if_pos hcover]
  have hplaces : margin = 12 ∧ Subject.coverLeft = 660 := ⟨rfl, rfl⟩
  refine ⟨hwidth, hheight, ⟨height, htags⟩, s.placeTags_eq, ?_⟩
  constructor
  · intro hclear first hfirst
    by_contra hpast
    obtain ⟨p, hp, hunder⟩ := Subject.exists_underCover_of_wide hlimit hfirst (by omega)
    exact hclear p hp hunder
  · intro hends p hp hunder
    cases hfirst : s.firstTag? with
    | some first =>
      have hend := hends first hfirst
      exact Subject.not_underCover_of_narrow hlimit hfirst (by omega) hp hunder
    | none =>
      -- Without a cell every chip is small.
      obtain ⟨tag, htag, hchip⟩ := Subject.mem_cellChips hp
      have hno : hasCell tag.1 = false := by simpa using List.find?_eq_none.1 hfirst tag htag
      have hwide := (Subject.wide_of_underCover hlimit hp hunder).2
      rw [hchip, size_cellChip_of_no_cell hno] at hwide
      exact absurd hwide (by decide)

/-- A student in cover with a squad type of so many letters, where every name has a picture. -/
def lettered (count : Nat) : Subject :=
  subjectOf { bare CellText.measure with picture? := fun _ _ => some ⟨.vector, ⟨96, 96⟩⟩ } {}
    { squadType := String.ofList (List.replicate count 'a'), cover := true } .en

/-- Forty-eight letters end where the icon begins. -/
theorem chips_clear_of_letters :
    ∃ icon, (lettered 48).icon? .ui "Cover" ⟨iconSide, iconSide⟩ = some icon ∧
      (lettered 48).placedChips.head?.map PlacedChip.right = some 660 ∧
      ∀ p ∈ (lettered 48).placedChips, ¬ p.UnderCover := by
  have hicon : (lettered 48).icon? .ui "Cover" ⟨iconSide, iconSide⟩ =
      some ⟨.vector, ⟨48, 48⟩⟩ := by decide +kernel
  obtain ⟨-, -, -, -, hclear⟩ := chips_clear_iff (s := lettered 48) rfl rfl hicon
  exact ⟨_, hicon, by decide +kernel, hclear.2 (by decide +kernel)⟩

/-- The first chip of a row keeps its place, and forty-nine letters run under the icon. -/
theorem chip_under_cover :
    (lettered 49).tags.toOption.map (fun strip =>
        (strip.primitives.take 2).map fun q => (q.left, q.top, q.content.size)) =
      some [(660, 0, ⟨48, 48⟩), (12, 0, ⟨661, 41⟩)] ∧
    ∃ p ∈ (lettered 49).placedChips, p.UnderCover := by
  decide +kernel

end Card
end DialogueSheet
