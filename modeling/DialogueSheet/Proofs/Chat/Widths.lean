/-
# Chats stay between the sides of the canvas

Set in cells, no text of a chat is wider than it is asked to be, so what is placed beside or
around it stays on the canvas (`block_across`, `titleBar_across`, `watermark_across`).
-/
import DialogueSheet.Proofs.Chat.Drawn
import DialogueSheet.Proofs.Layout.Stacking
import DialogueSheet.Proofs.Raster.Fitted
import DialogueSheet.Proofs.Typeset.Breaking

namespace DialogueSheet
namespace Chat

variable {s : Scene}

/-- The primitive lies between the left and the right side of the canvas. -/
def Across (p : Primitive) : Prop :=
  0 ≤ p.left ∧ p.left + p.content.size.width ≤ canvasWidth

theorem Across.lowered {p : Primitive} (h : Across p) (offset : Nat) : Across (p.lowered offset) :=
  h

theorem across_ofShape (shape : Shape) (left : Int) (top : Nat) :
    Across (.ofShape shape left top) ↔ 0 ≤ left ∧ left + shape.size.width ≤ 720 := Iff.rfl

theorem across_ofText (t : SetText) (left : Int) (top : Nat) :
    Across (.ofText t left top) ↔ 0 ≤ left ∧ left + t.size.width ≤ 720 := Iff.rfl

theorem across_ofPicture (picture : Picture) (left : Int) (top : Nat) :
    Across (.ofPicture picture left top) ↔ 0 ≤ left ∧ left + picture.size.width ≤ 720 := Iff.rfl

theorem canvasWidth_eq : canvasWidth = 720 := rfl

theorem cardLeft_eq : cardLeft = 96 := rfl

theorem cardWidth_eq : cardWidth = 604 := rfl

/-! ### Texts -/

/-- Every character of so large letters fits into the width. -/
def Roomy (size : Binary32) (width : Nat) : Prop :=
  0 < width ∧ ∀ c, CellText.advance size c ≤ width

theorem roomy_of_widths {size : Binary32} {width : Nat} (hpos : 0 < width)
    (hascii : (size * 0.55).ceil.toCount ≤ width) (hwide : size.ceil.toCount ≤ width) :
    Roomy size width := by
  refine ⟨hpos, fun c => ?_⟩
  unfold CellText.advance
  split <;> assumption

theorem roomy_body {width : Nat} (h : 32 ≤ width) : Roomy bodySize width :=
  roomy_of_widths (by omega) (Nat.le_trans (by decide +kernel) h)
    (Nat.le_trans (by decide +kernel) h)

theorem roomy_name : Roomy 24 bubbleWidth :=
  roomy_of_widths (by decide) (by decide +kernel) (by decide +kernel)

theorem roomy_heading : Roomy 36 (canvasWidth - 132) :=
  roomy_of_widths (by decide) (by decide +kernel) (by decide +kernel)

theorem roomy_mark : Roomy 20 (canvasWidth - 48) :=
  roomy_of_widths (by decide) (by decide +kernel) (by decide +kernel)

theorem width_le_of_setText (hcells : s.resources.measure = CellText.measure) {r : TextRequest}
    {t : SetText} (h : s.setText r = .ok t) (hroomy : Roomy r.size r.maxWidth) :
    t.size.width ≤ r.maxWidth := by
  rw [Resources.size_of_setText hcells h]
  exact (CellText.textSize_width_le hroomy.1 hroomy.2).trans_eq (max_self _)

/-! ### Bubbles and pictures -/

theorem bubble_across (hcells : s.resources.measure = CellText.measure) {side : Side}
    {hasTail : Bool} {text : String} {strip : Strip}
    (h : s.bubble side hasTail text = .ok strip) : ∀ p ∈ strip.primitives, Across p := by
  obtain ⟨t, ht, -, hdrawn⟩ := of_bubble h
  have hwidth : t.size.width ≤ 580 := width_le_of_setText hcells ht
    (roomy_body (show 32 ≤ 580 by decide))
  intro p hp
  rcases hdrawn p hp with rfl | rfl | rfl
  · cases side <;> exact ⟨by decide, by decide⟩
  · rw [across_ofShape, Shape.size_rounded]
    cases side <;> simp only [bubbleLefts, canvasWidth_eq, cardLeft_eq] <;> omega
  · rw [across_ofText]
    cases side <;> simp only [bubbleLefts, canvasWidth_eq, cardLeft_eq] <;> omega

theorem imageStrip_across (himages : ∀ pic ∈ s.images, pic.size.width ≤ imageSide) (side : Side)
    (index : Nat) : ∀ p ∈ (s.imageStrip side index).primitives, Across p := by
  intro p hp
  rcases of_imageStrip s side index with hnone | ⟨pic, hpic, hstrip⟩
  · simp [hnone] at hp
  · have hwidth : pic.size.width ≤ 300 := himages pic hpic
    rw [hstrip] at hp
    obtain rfl := List.mem_singleton.1 hp
    rw [across_ofPicture]
    cases side <;> simp only [pictureLeft, canvasWidth_eq, cardLeft_eq] <;> omega

theorem bubbles_across (hcells : s.resources.measure = CellText.measure)
    (himages : ∀ pic ∈ s.images, pic.size.width ≤ imageSide) {side : Side} {lines : List String}
    {strips : List Strip} (h : s.bubbles side lines = .ok strips) (below : Nat) :
    ∀ strip ∈ strips ++ [.gap below], ∀ p ∈ strip.primitives, Across p := by
  intro strip hstrip
  rcases List.mem_append.1 hstrip with hstrip | hstrip
  · rcases of_mem_bubbles h hstrip with ⟨hasTail, text, hbubble⟩ | ⟨index, rfl⟩
    · exact bubble_across hcells hbubble
    · exact imageStrip_across himages side index
  · simp [List.mem_singleton.1 hstrip, Strip.gap]

/-! ### Cards -/

theorem cardFrame_across {fill accent : Color} {height headingHeight top : Nat} {p : Primitive}
    (hp : p ∈ cardFrame fill accent height headingHeight top) : Across p := by
  simp only [cardFrame, List.mem_cons, List.not_mem_nil, or_false] at hp
  rcases hp with rfl | rfl | rfl <;>
    simp [across_ofShape, cardLeft_eq, cardWidth_eq]

/-- A text no wider than its card is centered inside of it. -/
theorem cardBox_across {fill : Color} {t : SetText} (hwidth : t.size.width ≤ cardWidth) {top : Nat}
    {p : Primitive} (hp : p ∈ cardBox fill t top) : Across p := by
  simp only [cardBox, List.mem_cons, List.not_mem_nil, or_false] at hp
  rw [cardWidth_eq] at hwidth
  rcases hp with rfl | rfl
  · simp [across_ofShape, cardLeft_eq, cardWidth_eq]
  · rw [across_ofText, cardLeft_eq, cardWidth_eq, centeredOffset,
      Int.tdiv_eq_ediv_of_nonneg (by omega)]
    omega

theorem optionBoxes_across {texts : List SetText} (hwidth : ∀ t ∈ texts, t.size.width ≤ cardWidth)
    {top : Nat} {p : Primitive} (hp : p ∈ optionBoxes top texts) : Across p := by
  induction texts generalizing top with
  | nil => simp [optionBoxes] at hp
  | cons t rest ih =>
    rcases List.mem_append.1 hp with hp | hp
    · exact cardBox_across (hwidth t List.mem_cons_self) hp
    · exact ih (fun u hu => hwidth u (List.mem_cons_of_mem _ hu)) hp

theorem cardTitle_across (hcells : s.resources.measure = CellText.measure) {heading : String}
    {t : SetText} (h : s.cardTitle heading = .ok t) (top : Nat) :
    Across (.ofText t (cardLeft + 28) top) := by
  have hwidth : t.size.width ≤ 584 := width_le_of_setText hcells h
    (roomy_body (show 32 ≤ 584 by decide))
  rw [across_ofText, cardLeft_eq]
  omega

theorem cardText_width_le (hcells : s.resources.measure = CellText.measure) {text : String}
    {color : Color} {t : SetText} (h : s.cardText text color = .ok t) :
    t.size.width ≤ cardWidth := by
  have hwidth : t.size.width ≤ 564 := width_le_of_setText hcells h
    (roomy_body (show 32 ≤ 564 by decide))
  rw [cardWidth_eq]
  omega

/-! ### Blocks -/

/-- Everything that the strips of a block draw lies between the sides of the canvas. -/
theorem block_across (hcells : s.resources.measure = CellText.measure)
    (himages : ∀ pic ∈ s.images, pic.size.width ≤ imageSide) {b : Block} {strips : List Strip}
    (h : s.block b = .ok strips) : ∀ strip ∈ strips, ∀ p ∈ strip.primitives, Across p := by
  cases b with
  | speaker who lines =>
    obtain ⟨name, rest, hname, hrest, rfl⟩ := of_speaker h
    have hwidth : name.size.width ≤ 580 := width_le_of_setText hcells hname roomy_name
    intro strip hstrip
    rcases List.mem_cons.1 hstrip with rfl | hstrip
    · intro p hp
      rcases List.mem_append.1 hp with hp | hp
      · obtain ⟨avatar, havatar, rfl⟩ := List.mem_map.1 hp
        have hsize := avatar?_size (Option.mem_toList.1 havatar)
        simp [across_ofPicture, hsize, avatarSide]
      · rw [List.mem_singleton.1 hp, across_ofText, cardLeft_eq]
        omega
    · exact bubbles_across hcells himages hrest 8 strip hstrip
  | counterpart lines =>
    obtain ⟨rest, hrest, rfl⟩ := of_counterpart h
    exact bubbles_across hcells himages hrest 8
  | choices options =>
    obtain ⟨title, texts, htitle, htexts, rfl⟩ := of_choices h
    intro strip hstrip p hp
    obtain rfl := List.mem_singleton.1 hstrip
    rcases List.mem_append.1 hp with hp | hp
    · exact cardFrame_across hp
    rcases List.mem_cons.1 hp with rfl | hp
    · exact cardTitle_across hcells htitle _
    · refine optionBoxes_across (fun t ht => ?_) hp
      obtain ⟨option, -, hoption⟩ := exists_of_mem_mapM htexts ht
      exact cardText_width_le hcells hoption
  | banner who caption =>
    obtain ⟨title, shown, text, htitle, htext, rfl⟩ := of_banner h
    intro strip hstrip p hp
    obtain rfl := List.mem_singleton.1 hstrip
    rcases List.mem_append.1 hp with hp | hp
    · exact cardFrame_across hp
    rcases List.mem_cons.1 hp with rfl | hp
    · exact cardTitle_across hcells htitle _
    · exact cardBox_across (cardText_width_le hcells htext) hp

/-! ### The title bar and the watermark -/

theorem titleIcon_le (s : Scene) :
    s.titleIcon.size.width ≤ titleIconSide ∧ s.titleIcon.size.height ≤ titleIconSide := by
  unfold Scene.titleIcon
  split
  · exact Size.fitSquare_le _ (by decide) (by decide)
  · exact ⟨le_rfl, le_rfl⟩

theorem titleBar_across (hcells : s.resources.measure = CellText.measure) {bar : Strip}
    (h : s.titleBar = .ok bar) : ∀ p ∈ bar.primitives, Across p := by
  obtain ⟨title, close, htitle, hclose, rfl⟩ := of_titleBar h
  have hwidth : title.size.width ≤ 588 := width_le_of_setText hcells htitle roomy_heading
  have hicon : s.titleIcon.size.width ≤ 36 := (titleIcon_le s).1
  have hcross : close.size = ⟨22, 52⟩ := by
    rw [Resources.size_of_setText hcells hclose]
    decide +kernel
  intro p hp
  simp only [List.mem_cons, List.not_mem_nil, or_false] at hp
  rcases hp with rfl | rfl | rfl | rfl
  · simp [across_ofShape, canvasWidth_eq]
  · rw [across_ofPicture]
    omega
  · rw [across_ofText]
    omega
  · simp [across_ofText, canvasWidth_eq, hcross]

theorem watermark_across (hcells : s.resources.measure = CellText.measure)
    {watermark : Option String} {strips : List Strip}
    (h : s.resources.watermarkStrips canvasWidth watermark = .ok strips) :
    ∀ strip ∈ strips, ∀ p ∈ strip.primitives, Across p := by
  intro strip hstrip p hp
  obtain ⟨mark, t, ht, rfl⟩ := Resources.of_mem_watermarkStrips h hstrip
  have hwidth : t.size.width ≤ 672 := width_le_of_setText hcells ht roomy_mark
  obtain rfl := List.mem_singleton.1 hp
  rw [across_ofText, canvasWidth_eq, centeredOffset, Int.tdiv_eq_ediv_of_nonneg (by omega)]
  omega

/-! ### Pictures handed over with a script -/

/-- A picture handed over with a script is fitted to its box. -/
theorem exists_fitSquare_of_mem {K : Codec} {contents : List FileContent} {images : List Picture}
    (h : inlinePictures K contents = .ok images) {pic : Picture} (hpic : pic ∈ images) :
    ∃ size : Size, pic.size = size.fitSquare imageSide := by
  obtain ⟨⟨content, index⟩, -, hcontent⟩ := exists_of_mem_mapM h hpic
  simp only [inlinePicture] at hcontent
  split at hcontent
  · cases hcontent
  split at hcontent
  · rw [← Except.ok.inj hcontent]
    exact ⟨_, rfl⟩
  · cases hcontent

theorem inlinePictures_le {K : Codec} {contents : List FileContent} {images : List Picture}
    (h : inlinePictures K contents = .ok images) {pic : Picture} (hpic : pic ∈ images) :
    pic.size.width ≤ imageSide ∧ pic.size.height ≤ imageSide := by
  obtain ⟨size, hsize⟩ := exists_fitSquare_of_mem h hpic
  rw [hsize]
  exact Size.fitSquare_le size (by decide) (by decide)

end Chat
end DialogueSheet
