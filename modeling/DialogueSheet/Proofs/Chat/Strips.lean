/-
# The strips of chats

The parts of a chat as strips, which know nothing of where they are placed.  Every part places
its rows at tops that it counts from the cursor, and the tops of all of them are as much lower as
the cursor is; so wherever it starts it leaves what its strips do (`addBlock_eq`).
-/
import DialogueSheet.Chat.Layout
import DialogueSheet.Proofs.Layout.Following
import DialogueSheet.Proofs.Script.Segments

namespace DialogueSheet
namespace Chat

/-! ### Strips -/

namespace Scene

/-- The strip of the title bar. -/
def titleBar (s : Scene) : Except Failure Strip := do
  let title ← s.setText
    ((TextRequest.plain s.config.title 36 Color.white).withWidth (canvasWidth - 132)).inHeading
  let close ← s.setText (.plain "X" 40 Color.white)
  return ⟨s.titleBarRow title close 0, titleHeight⟩

/-- The strip of a text in a bubble. -/
def bubble (s : Scene) (side : Side) (hasTail : Bool) (text : String) : Except Failure Strip := do
  let t ← s.setText ((TextRequest.plain text bodySize bubbleText).withWidth bubbleWidth)
  return ⟨bubbleRow side hasTail t 0, t.size.height + 40⟩

/-- The strip of a picture; empty when the picture is not there. -/
def imageStrip (s : Scene) (side : Side) (index : Nat) : Strip :=
  match s.images[index - 1]? with
  | none => .gap 0
  | some p => ⟨[.ofPicture p (pictureLeft side p) 0], p.size.height + 8⟩

/-- The strip of a segment. -/
def segmentStrip (s : Scene) (side : Side) (isFirst : Bool) : Segment → Except Failure Strip
  | .text text => s.bubble side isFirst text
  | .image index => .ok (s.imageStrip side index)

/-- The strips of lines. -/
def bubbles (s : Scene) (side : Side) (lines : List String) : Except Failure (List Strip) :=
  (markedSegments lines s.images.length).mapM fun (segment, isFirst) =>
    s.segmentStrip side isFirst segment

/-- The strips of a speaker. -/
def speaker (s : Scene) (who : StudentRef) (lines : List String) :
    Except Failure (List Strip) := do
  let name ← s.setText ((TextRequest.plain who.name 24 darkText).withWidth bubbleWidth)
  let rest ← s.bubbles .left lines
  return ⟨s.speakerRow who name 0, name.size.height + 4⟩ :: rest ++ [.gap 8]

/-- The strips of the reader. -/
def counterpart (s : Scene) (lines : List String) : Except Failure (List Strip) := do
  let strips ← s.bubbles .right lines
  return strips ++ [.gap 8]

/-- The strip of choices. -/
def choices (s : Scene) (options : List String) : Except Failure (List Strip) := do
  let title ← s.cardTitle s.config.optionTitle
  let texts ← (shownLines options).mapM fun o => s.cardText o darkText
  let height := title.size.height + 26 + optionsHeight texts
  return [⟨choicesRow title texts height 0, height + 24⟩]

/-- The strip of a banner. -/
def banner (s : Scene) (who : StudentRef) (caption : String) : Except Failure (List Strip) := do
  let caption := Text.trim caption
  let caption := if caption = "" then Block.defaultCaption who.name else caption
  let title ← s.cardTitle s.config.storyTitle
  let text ← s.cardText caption bannerText
  let height := title.size.height + 26 + text.size.height + 44
  return [⟨bannerRow title text height 0, height + 12⟩]

/-- The strips of a block. -/
def block (s : Scene) : Block → Except Failure (List Strip)
  | .speaker who lines => s.speaker who lines
  | .counterpart lines => s.counterpart lines
  | .choices options => s.choices options
  | .banner who caption => s.banner who caption

end Scene

/-! ### Rows -/

theorem shifts_titleBarRow (s : Scene) (title close : SetText) :
    Shifts (s.titleBarRow title close) := by
  intro top
  simp [Scene.titleBarRow, Nat.add_comm]

theorem shifts_tail (side : Side) : Shifts fun top => [tail side top] := by
  intro top
  cases side <;> simp [tail, Nat.add_comm]

theorem shifts_bubbleRow (side : Side) (hasTail : Bool) (t : SetText) :
    Shifts (bubbleRow side hasTail t) := by
  refine Shifts.append ?_ fun top => by simp [Nat.add_comm]
  cases hasTail with
  | true => exact shifts_tail side
  | false => exact fun _ => rfl

theorem shifts_speakerRow (s : Scene) (who : StudentRef) (name : SetText) :
    Shifts (s.speakerRow who name) :=
  (Shifts.of_picture? (s.avatar? who) 12).append fun top => by simp

theorem shifts_cardFrame (fill accent : Color) (height titleHeight : Nat) :
    Shifts (cardFrame fill accent height titleHeight) := by
  intro top
  simp [cardFrame, Nat.add_comm, Nat.add_left_comm]

theorem shifts_cardBox (fill : Color) (t : SetText) : Shifts (cardBox fill t) := by
  intro top
  simp [cardBox, Nat.add_comm]

theorem shifts_optionBoxes (texts : List SetText) : Shifts fun top => optionBoxes top texts := by
  induction texts with
  | nil => exact fun _ => rfl
  | cons t rest ih => exact (shifts_cardBox optionFill t).append (ih.below (t.size.height + 36))

theorem shifts_choicesRow (title : SetText) (options : List SetText) (height : Nat) :
    Shifts (choicesRow title options height) := by
  have hboxes : Shifts fun top => optionBoxes (top + 12 + title.size.height + 20) options := by
    simpa only [Nat.add_assoc] using
      (shifts_optionBoxes options).below (12 + (title.size.height + 20))
  exact Shifts.append (shifts_cardFrame _ _ _ _)
    (Shifts.cons (fun top => by simp [Nat.add_comm]) hboxes)

theorem shifts_bannerRow (title text : SetText) (height : Nat) :
    Shifts (bannerRow title text height) := by
  have hbox : Shifts fun top => cardBox bannerAccent text (top + 16 + title.size.height + 18) := by
    simpa only [Nat.add_assoc] using
      (shifts_cardBox bannerAccent text).below (16 + (title.size.height + 18))
  exact Shifts.append (shifts_cardFrame _ _ _ _)
    (Shifts.cons (fun top => by simp [Nat.add_comm]) hbox)

/-! ### Where the parts leave the flow -/

namespace Scene

variable (s : Scene)

/-- The title bar leaves its strip. -/
theorem placeTitleBar_eq (f : Flow) : s.placeTitleBar f = f.past <$> s.titleBar := by
  simp only [placeTitleBar, titleBar, map_bind, map_pure]
  refine bind_congr fun title => bind_congr fun close => ?_
  rw [f.put_row (shifts_titleBarRow s title close) titleHeight]
  rfl

/-- A segment leaves its strip; a picture that is not there would leave nothing. -/
theorem placeSegment_eq {segment : Segment}
    (hthere : ∀ index, segment = .image index → 1 ≤ index ∧ index ≤ s.images.length)
    (side : Side) (isFirst : Bool) (f : Flow) :
    s.placeSegment side f segment isFirst = f.past <$> s.segmentStrip side isFirst segment := by
  cases segment with
  | text text =>
    simp only [placeSegment, segmentStrip, bubble, map_bind, map_pure]
    refine bind_congr fun t => ?_
    rw [f.put_row (shifts_bubbleRow side isFirst t) (t.size.height + 40)]
    rfl
  | image index =>
    obtain ⟨hpos, hle⟩ := hthere index rfl
    have hpicture : s.images[index - 1]? = some s.images[index - 1] :=
      List.getElem?_eq_getElem (by omega)
    have hrow : Shifts fun top =>
        [.ofPicture s.images[index - 1] (pictureLeft side s.images[index - 1]) top] :=
      fun top => by simp
    simp only [placeSegment, segmentStrip, imageStrip, hpicture]
    rw [f.put_row hrow (s.images[index - 1].size.height + 8)]
    rfl

theorem placeBubbles_follows (side : Side) (lines : List String) :
    Follows Flow.past (s.placeBubbles side lines) (s.bubbles side lines) := by
  refine Follows.foldlM fun (segment, isFirst) hmem f => s.placeSegment_eq ?_ side isFirst f
  rintro index rfl
  obtain ⟨⟨line, n⟩, -, hline⟩ := List.mem_flatMap.1 hmem
  obtain ⟨⟨segment, i⟩, hsegment, heq⟩ := List.mem_map.1 hline
  obtain ⟨rfl, -⟩ := Prod.mk.inj heq
  exact Segment.index_of_mem_segments (List.fst_mem_of_mem_zipIdx hsegment)

end Scene

/-- The flow with strips at the cursor that take the least height of a block together. -/
def padded (f : Flow) (strips : List Strip) : Flow :=
  (strips.foldl Flow.past f).padRow f.cursor minRowHeight

namespace Scene

variable (s : Scene)

theorem placeSpeaker_eq (who : StudentRef) (lines : List String) (f : Flow) :
    s.placeSpeaker who lines f = padded f <$> s.speaker who lines := by
  simp only [placeSpeaker, speaker, map_bind, map_pure]
  refine bind_congr fun name => ?_
  rw [f.put_row (shifts_speakerRow s who name) (name.size.height + 4)]
  change s.placeBubbles .left lines (f.past _) >>= _ = _
  rw [s.placeBubbles_follows .left lines, bind_map_left]
  refine bind_congr fun rest => ?_
  simp [padded]

theorem placeCounterpart_eq (lines : List String) (f : Flow) :
    s.placeCounterpart lines f = padded f <$> s.counterpart lines := by
  simp only [placeCounterpart, counterpart, map_bind, map_pure]
  rw [s.placeBubbles_follows .right lines, bind_map_left]
  refine bind_congr fun rest => ?_
  simp [padded]

theorem placeChoices_eq (options : List String) (f : Flow) :
    s.placeChoices options f = padded f <$> s.choices options := by
  simp only [placeChoices, choices, map_bind, map_pure]
  refine bind_congr fun title => bind_congr fun texts => ?_
  rw [f.put_row (shifts_choicesRow title texts _)
    (title.size.height + 26 + optionsHeight texts + 24)]
  rfl

theorem placeBanner_eq (who : StudentRef) (caption : String) (f : Flow) :
    s.placeBanner who caption f = padded f <$> s.banner who caption := by
  simp only [placeBanner, banner, map_bind, map_pure]
  refine bind_congr fun title => bind_congr fun text => ?_
  rw [f.put_row (shifts_bannerRow title text _)
    (title.size.height + 26 + text.size.height + 44 + 12)]
  rfl

theorem placeBlock_eq (b : Block) (f : Flow) : s.placeBlock b f = padded f <$> s.block b := by
  cases b with
  | speaker who lines => exact s.placeSpeaker_eq who lines f
  | counterpart lines => exact s.placeCounterpart_eq lines f
  | choices options => exact s.placeChoices_eq options f
  | banner who caption => exact s.placeBanner_eq who caption f

/-- **A block leaves its strips, wherever it starts.** -/
theorem addBlock_eq (f : Flow) (b : Block) :
    s.addBlock f b = (fun strips => (padded f strips).advance blockGap) <$> s.block b := by
  rw [addBlock, placeBlock_eq, bind_map_left]
  cases s.block b <;> rfl

variable {s} in
theorem addBlock_eq_ok_iff {f g : Flow} {b : Block} :
    s.addBlock f b = .ok g ↔
      ∃ strips, s.block b = .ok strips ∧ g = (padded f strips).advance blockGap := by
  rw [addBlock_eq]
  cases s.block b <;> simp [eq_comm]

end Scene
end Chat
end DialogueSheet
