/-
# A whole chat in slots

A chat is laid out on a flow (`Scene.flow`), which is then finished.  Nothing but a text that
cannot be measured stops the layout.  The blocks and the watermark fill slots below the title
bar, one below the other, and set in cells nothing passes the sides (`flow_in_slots`).
-/
import DialogueSheet.Proofs.Chat.Slots
import DialogueSheet.Proofs.Chat.Widths

namespace DialogueSheet
namespace Chat

variable {s : Scene}

theorem Scene.render_eq_flow (s : Scene) (blocks : List Block) (watermark : Option String) :
    s.render blocks watermark = s.flow blocks watermark >>= (·.finish background 0) := rfl

/-- The flow of a chat by the strips of its watermark. -/
theorem Scene.flow_eq_strips (s : Scene) (blocks : List Block) (watermark : Option String) :
    s.flow blocks watermark = s.header >>= fun f => s.addBlocks f blocks >>= fun f =>
      s.resources.watermarkStrips canvasWidth watermark >>= f.addStrips := by
  refine bind_congr fun f => bind_congr fun g => ?_
  exact (s.resources.placeWatermark_follows canvasWidth watermark).eq_addStrips g

/-! ### What stops a layout -/

theorem stopsAt_bubbles (side : Side) (lines : List String) :
    StopsAt s.resources.measure (s.bubbles side lines) := by
  refine StopsAt.mapM fun segment _ => ?_
  obtain ⟨segment, isFirst⟩ := segment
  cases segment with
  | text text =>
    refine (StopsAt.setText s.resources _).bind fun t => ?_
    cases side <;> exact StopsAt.ok _
  | image index => exact StopsAt.ok _

theorem stopsAt_block (b : Block) : StopsAt s.resources.measure (s.block b) := by
  have htext := StopsAt.setText s.resources
  cases b with
  | speaker who lines =>
    exact (htext _).bind fun _ => (stopsAt_bubbles .left lines).bind fun _ => StopsAt.ok _
  | counterpart lines => exact (stopsAt_bubbles .right lines).bind fun _ => StopsAt.ok _
  | choices options =>
    exact (htext _).bind fun _ => (StopsAt.mapM fun _ _ => htext _).bind fun _ => StopsAt.ok _
  | banner who caption =>
    exact (htext _).bind fun _ => (htext _).bind fun _ => StopsAt.ok _

/-- A block whose texts are measured is placed. -/
theorem exists_addBlock {b : Block} {strips : List Strip} (h : s.block b = .ok strips) (f : Flow) :
    ∃ g, s.addBlock f b = .ok g :=
  ⟨_, Scene.addBlock_eq_ok_iff.2 ⟨strips, h, rfl⟩⟩

theorem stopsAt_addBlock (f : Flow) (b : Block) :
    StopsAt s.resources.measure (s.addBlock f b) := by
  rw [s.addBlock_eq]
  exact (stopsAt_block b).bind fun _ => StopsAt.ok _

theorem stopsAt_addBlocks (f : Flow) (blocks : List Block) :
    StopsAt s.resources.measure (s.addBlocks f blocks) := by
  induction blocks generalizing f with
  | nil => exact StopsAt.ok f
  | cons b rest ih => exact (stopsAt_addBlock f b).bind ih

theorem stopsAt_header : StopsAt s.resources.measure s.header := by
  have htext := StopsAt.setText s.resources
  rw [Scene.header, s.placeTitleBar_eq]
  exact ((htext _).bind fun _ => (htext _).bind fun _ => StopsAt.ok _).bind fun _ => StopsAt.ok _

theorem stopsAt_flow (blocks : List Block) (watermark : Option String) :
    StopsAt s.resources.measure (s.flow blocks watermark) :=
  stopsAt_header.bind fun f => (stopsAt_addBlocks f blocks).bind fun g =>
    StopsAt.of_follows (s.resources.placeWatermark_follows canvasWidth watermark)
      (s.resources.stopsAt_watermarkStrips canvasWidth watermark) g

/-! ### Where a chat is drawn -/

theorem header_eq {bar : Strip} (h : s.titleBar = .ok bar) :
    s.header = .ok ⟨canvasWidth, topMargin + titleHeight,
      bar.primitives.map (Primitive.lowered topMargin)⟩ := by
  obtain ⟨title, close, -, -, hbar⟩ := of_titleBar h
  rw [Scene.header, s.placeTitleBar_eq, h, hbar]
  rfl

theorem of_header {header : Flow} (h : s.header = .ok header) :
    ∃ bar, s.titleBar = .ok bar ∧ header = ⟨canvasWidth, topMargin + titleHeight,
      bar.primitives.map (Primitive.lowered topMargin)⟩ := by
  cases hbar : s.titleBar with
  | error e => simp [Scene.header, s.placeTitleBar_eq, hbar] at h
  | ok bar =>
    rw [header_eq hbar] at h
    exact ⟨bar, rfl, (Except.ok.inj h).symm⟩

theorem watermark_contained {watermark : Option String} {strips : List Strip}
    (h : s.resources.watermarkStrips canvasWidth watermark = .ok strips) :
    (Strip.stack strips).Contained := by
  refine Strip.Contained.stack fun strip hstrip p hp => ?_
  obtain ⟨mark, t, -, rfl⟩ := Resources.of_mem_watermarkStrips h hstrip
  obtain rfl := List.mem_singleton.1 hp
  simp

/-- The slots of blocks with a last slot below them are one below the other. -/
theorem pairwise_slots {f g : Flow} {blocks : List Block} {slots : List Slot} {last : Slot}
    (h : s.Laid f blocks slots g) (hlast : g.cursor ≤ last.start) :
    (slots ++ [last]).Pairwise fun above below =>
      ∀ p ∈ above.primitives, ∀ q ∈ below.primitives, p.bottom ≤ q.top := by
  have hslots : (slots ++ [last]).Pairwise fun above below => above.finish ≤ below.start := by
    refine List.pairwise_append.2 ⟨h.pairwise, List.pairwise_singleton _ _, fun slot hslot => ?_⟩
    intro below hbelow
    rw [List.mem_singleton.1 hbelow]
    exact Nat.le_trans (h.between hslot).2 hlast
  exact hslots.imp fun hle p hp q hq => Slot.bottom_le_top hle hp hq

theorem across_of_addBlocks (hcells : s.resources.measure = CellText.measure)
    (himages : ∀ pic ∈ s.images, pic.size.width ≤ imageSide) {f g : Flow} {blocks : List Block}
    (h : s.addBlocks f blocks = .ok g) (hf : ∀ p ∈ f.primitives, Across p) :
    ∀ p ∈ g.primitives, Across p := by
  induction blocks generalizing f with
  | nil => rwa [← Except.ok.inj h]
  | cons b blocks ih =>
    obtain ⟨next, hnext, hrest⟩ := bind_eq_ok_iff.1 h
    obtain ⟨strips, hstrips, rfl⟩ := Scene.addBlock_eq_ok_iff.1 hnext
    have hadded := Flow.forall_of_addStrips (P := Across)
      (fun _ offset h => Across.lowered h offset) (f.addStrips_eq_foldl strips) hf
      (block_across hcells himages hstrips)
    refine ih hrest ?_
    rwa [Flow.primitives_advance, padded, Flow.primitives_padRow]

theorem across_of_flow (hcells : s.resources.measure = CellText.measure)
    (himages : ∀ pic ∈ s.images, pic.size.width ≤ imageSide) {f : Flow} {blocks : List Block}
    {watermark : Option String} (h : s.flow blocks watermark = .ok f) :
    ∀ p ∈ f.primitives, Across p := by
  rw [s.flow_eq_strips] at h
  obtain ⟨header, hheader, h⟩ := bind_eq_ok_iff.1 h
  obtain ⟨placed, hplaced, h⟩ := bind_eq_ok_iff.1 h
  obtain ⟨strips, hstrips, h⟩ := bind_eq_ok_iff.1 h
  refine Flow.forall_of_addStrips (P := Across) (fun _ offset h => Across.lowered h offset) h
    (across_of_addBlocks hcells himages hplaced ?_) (watermark_across hcells hstrips)
  obtain ⟨bar, hbar, rfl⟩ := of_header hheader
  intro p hp
  obtain ⟨q, hq, rfl⟩ := List.mem_map.1 hp
  exact (titleBar_across hcells hbar q hq).lowered topMargin

/-- What a flow in range has been laid out of. -/
theorem slots_of_flow {f : Flow} {blocks : List Block} {watermark : Option String}
    (h : s.flow blocks watermark = .ok f) (hrange : f.cursor < Binary.maxCount) :
    ∃ header slots placed mark, s.header = .ok header ∧
      header.cursor = topMargin + titleHeight ∧ s.Laid header blocks slots placed ∧
      mark.start = placed.cursor ∧ mark.finish = f.cursor ∧
      f = ⟨canvasWidth, f.cursor,
        header.primitives ++ (slots ++ [mark]).flatMap Slot.primitives⟩ := by
  rw [s.flow_eq_strips] at h
  obtain ⟨header, hheader, hrest⟩ := bind_eq_ok_iff.1 h
  obtain ⟨placed, hplaced, hrest⟩ := bind_eq_ok_iff.1 hrest
  obtain ⟨strips, hstrips, hmarked⟩ := bind_eq_ok_iff.1 hrest
  obtain ⟨bar, hbar, rfl⟩ := of_header hheader
  have hmark := Flow.eq_of_addStrips hmarked hrange
  have hbelow : placed.cursor ≤ f.cursor := by
    rw [hmark]
    exact Nat.le_add_right ..
  obtain ⟨-, slots, hlaid⟩ := exists_laid hplaced (Nat.lt_of_le_of_lt hbelow hrange)
  refine ⟨_, slots, placed, (Strip.stack strips).slot (watermark_contained hstrips) placed.cursor,
    hheader, rfl, hlaid, rfl, by rw [hmark]; rfl, ?_⟩
  have hwidth := hlaid.width_eq
  simp only at hwidth
  rw [hmark]
  simp [Flow.draw, hlaid.primitives_eq, hwidth, Strip.slot]

/-- **Blocks and the watermark fill slots one below the other.** -/
theorem flow_in_slots (K : Codec) (resources : Resources) (config : ChatConfig)
    (given : List Student) (contents : List FileContent) (images : List Picture)
    (blocks : List Block) (watermark : Option String)
    (himages : inlinePictures K contents = .ok images) :
    let s : Scene := ⟨resources, config, given, images⟩
    (∀ f b strips, s.block b = .ok strips → ∃ g, s.addBlock f b = .ok g) ∧
    StopsAt resources.measure (s.flow blocks watermark) ∧
    ∀ f, s.flow blocks watermark = .ok f → f.cursor < Binary.maxCount →
      (∃ header slots placed mark, s.header = .ok header ∧
        header.cursor = topMargin + titleHeight ∧ s.Laid header blocks slots placed ∧
        mark.start = placed.cursor ∧ mark.finish = f.cursor ∧
        f.primitives = header.primitives ++ (slots ++ [mark]).flatMap Slot.primitives ∧
        (slots ++ [mark]).Pairwise fun above below =>
          ∀ p ∈ above.primitives, ∀ q ∈ below.primitives, p.bottom ≤ q.top) ∧
      topMargin + titleHeight + (minRowHeight + blockGap) * blocks.length ≤ f.cursor ∧
      (resources.measure = CellText.measure → ∀ p ∈ f.primitives, Across p) ∧
      ∀ d, render K resources config given contents blocks watermark = .ok d →
        d.size = ⟨canvasWidth, f.cursor⟩ ∧ d.primitives = f.primitives := by
  intro s
  refine ⟨fun f b strips hstrips => exists_addBlock hstrips f, stopsAt_flow blocks watermark,
    fun f hflow hrange => ?_⟩
  obtain ⟨header, slots, placed, mark, hheader, hcursor, hlaid, hstart, hfinish, heq⟩ :=
    slots_of_flow hflow hrange
  have hblocks := hlaid.cursor_le
  have hmark := mark.start_le
  refine ⟨⟨header, slots, placed, mark, hheader, hcursor, hlaid, hstart, hfinish, by rw [heq],
    pairwise_slots hlaid hstart.ge⟩, by omega, fun hcells => ?_, fun d hd => ?_⟩
  · exact across_of_flow hcells (fun pic hpic => (inlinePictures_le himages hpic).1) hflow
  · obtain ⟨images', himages', hrender⟩ := bind_eq_ok_iff.1 hd
    obtain rfl : images = images' := Except.ok.inj (himages.symm.trans himages')
    rw [Scene.render_eq_flow, hflow] at hrender
    have hdrawn : f.finish background 0 = .ok d := hrender
    have hheight : max (max f.cursor 0) 1 = f.cursor := by
      simp only [topMargin] at hcursor
      omega
    rw [Flow.of_finish hdrawn, Flow.canvasSize, hheight, heq]
    exact ⟨rfl, rfl⟩

/-- A line with a picture and a choice of two, with a watermark below them. -/
theorem flow_in_slots_of_two :
    let resources : Resources := ⟨CellText.measure, fun _ _ => none, fun _ => none,
      Catalog.ofRecords [], ⟨[], [], [], [], []⟩, ⟨[]⟩⟩
    let blocks : List Block :=
      [.speaker ⟨1, "Aru", .cn⟩ ["hi [img:1]"], .choices ["yes", "no"]]
    let s : Scene := ⟨resources, .standard, [], [⟨.inline 1, ⟨300, 200⟩⟩]⟩
    ∃ f d, s.flow blocks (some "mark") = .ok f ∧ f.cursor = 736 ∧
      (∃ header slots placed, s.Laid header blocks slots placed) ∧
      (∀ p ∈ f.primitives, Across p) ∧
      render .bySize resources .standard [] [.picture ⟨600, 400⟩ .png 5000] blocks
        (some "mark") = .ok d ∧
      d.size = ⟨720, 736⟩ := by
  intro resources blocks s
  have hcursor : (s.flow blocks (some "mark")).toOption.map Flow.cursor = some 736 := by
    decide +kernel
  have hdrawn : (render .bySize resources .standard [] [.picture ⟨600, 400⟩ .png 5000] blocks
      (some "mark")).toOption.isSome = true := by decide +kernel
  obtain ⟨-, -, hall⟩ := flow_in_slots .bySize resources .standard []
    [.picture ⟨600, 400⟩ .png 5000] [⟨.inline 1, ⟨300, 200⟩⟩] blocks (some "mark") rfl
  cases hflow : s.flow blocks (some "mark") with
  | error e => simp [hflow, Except.toOption] at hcursor
  | ok f =>
    cases hrender : render .bySize resources .standard [] [.picture ⟨600, 400⟩ .png 5000] blocks
        (some "mark") with
    | error e => simp [hrender, Except.toOption] at hdrawn
    | ok d =>
      have hheight : f.cursor = 736 := by simpa [hflow, Except.toOption] using hcursor
      obtain ⟨⟨header, slots, placed, -, -, -, hlaid, -⟩, -, hacross, hsize⟩ :=
        hall f hflow (by rw [hheight]; decide)
      refine ⟨f, d, rfl, hheight, ⟨header, slots, placed, hlaid⟩, hacross rfl, rfl, ?_⟩
      rw [(hsize d hrender).1, hheight]
      rfl

end Chat
end DialogueSheet
