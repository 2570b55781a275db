/-
# Blocks take slots of their own

The height of a block is counted by hand beside the offsets at which it draws.  The two agree:
whatever heights its texts have, a block draws nothing below the row it takes
(`block_contained`).  So a block that is placed fills a slot from the cursor at which it
starts (`slot_of_addBlock`), and blocks placed one after the other fill slots one below the
other, with a gap after each (`exists_laid`).
-/
import DialogueSheet.Proofs.Chat.Drawn

namespace DialogueSheet
namespace Chat

variable {s : Scene}

/-! ### Rows -/

/-- The strips of a block as one strip that has at least the least height. -/
def rowOf (strips : List Strip) : Strip :=
  ⟨(Strip.stack strips).primitives, max (Strip.stack strips).height minRowHeight⟩

theorem rowOf_contained_of_forall {strips : List Strip} (h : ∀ strip ∈ strips, strip.Contained) :
    (rowOf strips).Contained := fun p hp =>
  Nat.le_trans (Strip.Contained.stack h p hp) (Nat.le_max_left ..)

theorem bubble_contained {side : Side} {hasTail : Bool} {text : String} {strip : Strip}
    (h : s.bubble side hasTail text = .ok strip) : strip.Contained := by
  obtain ⟨t, -, hheight, hdrawn⟩ := of_bubble h
  intro p hp
  rw [hheight]
  rcases hdrawn p hp with rfl | rfl | rfl
  · cases side <;> simp [tail]
  · simp
  · simp
    omega

theorem imageStrip_contained (side : Side) (index : Nat) :
    (s.imageStrip side index).Contained := by
  intro p hp
  rcases of_imageStrip s side index with hnone | ⟨pic, -, hpic⟩
  · simp [hnone] at hp
  · rw [hpic] at hp ⊢
    obtain rfl := List.mem_singleton.1 hp
    simp

theorem bubbles_contained {side : Side} {lines : List String} {strips : List Strip}
    (h : s.bubbles side lines = .ok strips) : ∀ strip ∈ strips, strip.Contained := by
  intro strip hstrip
  rcases of_mem_bubbles h hstrip with ⟨hasTail, text, hbubble⟩ | ⟨index, rfl⟩
  · exact bubble_contained hbubble
  · exact imageStrip_contained side index

/-- A card of so much height ends there, or below its heading at the bar. -/
theorem cardFrame_bottom_le {fill accent : Color} {height headingHeight : Nat} {p : Primitive}
    (hp : p ∈ cardFrame fill accent height headingHeight 0) :
    p.bottom ≤ max height (headingHeight + 42) := by
  simp only [cardFrame, List.mem_cons, List.not_mem_nil, or_false] at hp
  rcases hp with rfl | rfl | rfl
  · simp only [Primitive.bottom_ofShape, Shape.size_withStroke, Shape.size_rounded]
    omega
  · simp only [Primitive.bottom_ofShape, Shape.size_rect]
    omega
  · simp only [Primitive.bottom_ofShape, Shape.size_rect]
    omega

theorem cardBox_bottom_le {fill : Color} {t : SetText} {top : Nat} {p : Primitive}
    (hp : p ∈ cardBox fill t top) : p.bottom ≤ top + t.size.height + 24 := by
  simp only [cardBox, List.mem_cons, List.not_mem_nil, or_false] at hp
  rcases hp with rfl | rfl
  · simp only [Primitive.bottom_ofShape, Shape.size_withStroke, Shape.size_rounded]
    omega
  · rw [Primitive.bottom_ofText]
    omega

/-- Below the last box there are still 12 pixels of what the options are counted for. -/
theorem optionBoxes_bottom_le {texts : List SetText} {top : Nat} {p : Primitive}
    (hp : p ∈ optionBoxes top texts) : p.bottom + 12 ≤ top + optionsHeight texts := by
  induction texts generalizing top with
  | nil => simp [optionBoxes] at hp
  | cons t rest ih =>
    rw [optionsHeight]
    rcases List.mem_append.1 hp with hp | hp
    · have hbox := cardBox_bottom_le hp
      omega
    · have hrest := ih hp
      omega

theorem speaker_contained {who : StudentRef} {lines : List String} {strips : List Strip}
    (h : s.speaker who lines = .ok strips) : (rowOf strips).Contained := by
  obtain ⟨name, rest, -, hrest, rfl⟩ := of_speaker h
  have hbelow : (Strip.stack (rest ++ [.gap 8])).Contained := by
    refine Strip.Contained.stack fun strip hstrip => ?_
    rcases List.mem_append.1 hstrip with hstrip | hstrip
    · exact bubbles_contained hrest strip hstrip
    · rw [List.mem_singleton.1 hstrip]
      exact Strip.contained_gap 8
  intro p hp
  rw [rowOf, Strip.stack_cons_height]
  rcases Strip.mem_stack_cons.1 hp with hp | ⟨q, hq, rfl⟩
  · rcases List.mem_append.1 hp with hp | hp
    · -- the avatar may be higher than the strips, but not than the least row
      obtain ⟨avatar, havatar, rfl⟩ := List.mem_map.1 hp
      have hsize := avatar?_size (Option.mem_toList.1 havatar)
      rw [Primitive.bottom_ofPicture, hsize, Nat.zero_add]
      exact Nat.le_trans (by decide : avatarSide ≤ minRowHeight) (Nat.le_max_right ..)
    · rw [List.mem_singleton.1 hp]
      simp
      omega
  · have hbottom := hbelow q hq
    rw [Primitive.lowered_bottom]
    simp only
    omega

theorem counterpart_contained {lines : List String} {strips : List Strip}
    (h : s.counterpart lines = .ok strips) : (rowOf strips).Contained := by
  obtain ⟨rest, hrest, rfl⟩ := of_counterpart h
  refine rowOf_contained_of_forall fun strip hstrip => ?_
  rcases List.mem_append.1 hstrip with hstrip | hstrip
  · exact bubbles_contained hrest strip hstrip
  · rw [List.mem_singleton.1 hstrip]
    exact Strip.contained_gap 8

theorem choices_contained {options : List String} {strips : List Strip}
    (h : s.choices options = .ok strips) : (rowOf strips).Contained := by
  obtain ⟨title, texts, -, -, rfl⟩ := of_choices h
  refine rowOf_contained_of_forall fun strip hstrip p hp => ?_
  obtain rfl := List.mem_singleton.1 hstrip
  rcases List.mem_append.1 hp with hp | hp
  · have hframe := cardFrame_bottom_le hp
    simp only
    omega
  rcases List.mem_cons.1 hp with rfl | hp
  · simp
    omega
  · have hboxes := optionBoxes_bottom_le hp
    simp only
    omega

theorem banner_contained {who : StudentRef} {caption : String} {strips : List Strip}
    (h : s.banner who caption = .ok strips) : (rowOf strips).Contained := by
  obtain ⟨title, -, text, -, -, rfl⟩ := of_banner h
  refine rowOf_contained_of_forall fun strip hstrip p hp => ?_
  obtain rfl := List.mem_singleton.1 hstrip
  rcases List.mem_append.1 hp with hp | hp
  · have hframe := cardFrame_bottom_le hp
    simp only
    omega
  rcases List.mem_cons.1 hp with rfl | hp
  · simp
    omega
  · have hbox := cardBox_bottom_le hp
    simp only
    omega

/-- **A block draws nothing below its row.** -/
theorem block_contained {b : Block} {strips : List Strip} (h : s.block b = .ok strips) :
    (rowOf strips).Contained := by
  cases b with
  | speaker who lines => exact speaker_contained h
  | counterpart lines => exact counterpart_contained h
  | choices options => exact choices_contained h
  | banner who caption => exact banner_contained h

/-! ### Slots -/

/-- A placed block leaves its row and the gap on the flow. -/
theorem eq_of_addBlock {f g : Flow} {b : Block} (h : s.addBlock f b = .ok g)
    (hrange : g.cursor < Binary.maxCount) :
    ∃ strips, s.block b = .ok strips ∧ g = { f.draw (rowOf strips) with
      cursor := f.cursor + (rowOf strips).height + blockGap } := by
  obtain ⟨strips, hstrips, rfl⟩ := Scene.addBlock_eq_ok_iff.1 h
  have hpadded := Flow.cursor_lt_of_advance hrange
  have hplaced := f.addStrips_eq_foldl strips
  have hstack := Flow.eq_of_addStrips hplaced (Flow.cursor_lt_of_padRow hpadded)
  refine ⟨strips, hstrips, ?_⟩
  rw [Flow.advance_of_lt hrange, padded, Flow.padRow_of_lt hpadded, hstack]
  simp [Flow.draw, rowOf]
  omega

/-- What a placed block adds to the flow is a slot of at least the least height, and a gap. -/
theorem slot_of_addBlock {f g : Flow} {b : Block} (h : s.addBlock f b = .ok g)
    (hrange : g.cursor < Binary.maxCount) :
    ∃ slot : Slot, slot.start = f.cursor ∧ slot.start + minRowHeight ≤ slot.finish ∧
      g = ⟨f.width, slot.finish + blockGap, f.primitives ++ slot.primitives⟩ := by
  obtain ⟨strips, hstrips, rfl⟩ := eq_of_addBlock h hrange
  exact ⟨(rowOf strips).slot (block_contained hstrips) f.cursor, rfl,
    Nat.add_le_add_left (Nat.le_max_right ..) _, rfl⟩

/-- The blocks are placed one after the other from `f` on, each in its slot, and leave `g`. -/
inductive Scene.Laid (s : Scene) : Flow → List Block → List Slot → Flow → Prop
  | nil (f : Flow) : Laid s f [] [] f
  | cons {f g : Flow} {b : Block} {slot : Slot} {blocks : List Block} {slots : List Slot}
      (start_eq : slot.start = f.cursor)
      (row_le : slot.start + minRowHeight ≤ slot.finish)
      (placed : s.addBlock f b =
        .ok ⟨f.width, slot.finish + blockGap, f.primitives ++ slot.primitives⟩)
      (later : Laid s ⟨f.width, slot.finish + blockGap, f.primitives ++ slot.primitives⟩
        blocks slots g) :
      Laid s f (b :: blocks) (slot :: slots) g

theorem exists_laid {f g : Flow} {blocks : List Block} (h : s.addBlocks f blocks = .ok g)
    (hrange : g.cursor < Binary.maxCount) :
    f.cursor ≤ g.cursor ∧ ∃ slots, s.Laid f blocks slots g := by
  induction blocks generalizing f with
  | nil =>
    obtain rfl := Except.ok.inj h
    exact ⟨Nat.le_refl _, [], .nil f⟩
  | cons b blocks ih =>
    obtain ⟨next, hnext, hrest⟩ := bind_eq_ok_iff.1 h
    obtain ⟨hle, slots, hslots⟩ := ih hrest
    obtain ⟨slot, hstart, hrow, rfl⟩ := slot_of_addBlock hnext (Nat.lt_of_le_of_lt hle hrange)
    simp only at hle
    exact ⟨by omega, slot :: slots, .cons hstart hrow hnext hslots⟩

namespace Scene.Laid

variable {f g : Flow} {blocks : List Block} {slots : List Slot}

theorem primitives_eq (h : s.Laid f blocks slots g) :
    g.primitives = f.primitives ++ slots.flatMap Slot.primitives := by
  induction h with
  | nil f => simp
  | cons _ _ _ _ ih => simp [ih]

theorem width_eq (h : s.Laid f blocks slots g) : g.width = f.width := by
  induction h with
  | nil f => rfl
  | cons _ _ _ _ ih => exact ih

/-- Every block takes its least height and the gap. -/
theorem cursor_le (h : s.Laid f blocks slots g) :
    f.cursor + (minRowHeight + blockGap) * blocks.length ≤ g.cursor := by
  induction h with
  | nil f => simp
  | cons hstart hrow _ _ ih =>
    simp only [List.length_cons, Nat.mul_add, Nat.add_mul] at ih ⊢
    omega

/-- The slots lie between the cursors. -/
theorem between (h : s.Laid f blocks slots g) {slot : Slot} (hslot : slot ∈ slots) :
    f.cursor ≤ slot.start ∧ slot.finish ≤ g.cursor := by
  induction h with
  | nil f => simp at hslot
  | cons hstart hrow _ hlater ih =>
    have hle := hlater.cursor_le
    simp only at ih hle
    rcases List.mem_cons.1 hslot with rfl | hslot
    · omega
    · have hrest := ih hslot
      omega

/-- Every slot ends where the next one starts or above. -/
theorem pairwise (h : s.Laid f blocks slots g) :
    slots.Pairwise fun above below => above.finish ≤ below.start := by
  induction h with
  | nil f => exact .nil
  | cons _ _ _ hlater ih =>
    refine List.pairwise_cons.2 ⟨fun below hbelow => ?_, ih⟩
    have hbetween := hlater.between hbelow
    simp only at hbetween
    omega

end Scene.Laid
end Chat
end DialogueSheet
