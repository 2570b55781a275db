/-
# The title bar and what lies below it

The title bar moves the cursor by a fixed height and does not ask how high its title is.
Set in cells, the title leaves that height exactly when it takes more than one line
(`titleBar_clear_iff`): it has a line feed, or its characters are wider than the bar together.
No setting leaves a title that is blank (`ChatConfig.Reachable.neat`).
-/
import DialogueSheet.Proofs.Chat.Settings
import DialogueSheet.Proofs.Chat.Sheet

namespace DialogueSheet
namespace Chat

variable {s : Scene}

/-- The text of a title. -/
def titleRequest (title : String) : TextRequest :=
  ((TextRequest.plain title 36 Color.white).withWidth (canvasWidth - 132)).inHeading

/-- The title takes one line. -/
def OneLine (title : String) : Prop :=
  '\n' ∉ title.toList ∧ (title.toList.map (CellText.advance 36)).sum ≤ canvasWidth - 132

instance (title : String) : Decidable (OneLine title) := inferInstanceAs (Decidable (_ ∧ _))

/-! ### The size of a title -/

theorem glyphs_titleRequest (title : String) :
    CellText.glyphs (titleRequest title) = title.toList.map (⟨·, Color.white⟩) := by
  simp [CellText.glyphs, titleRequest, TextRequest.plain, TextRequest.rich,
    TextRequest.withWidth, TextRequest.inHeading]

theorem length_lines_titleRequest (title : String) :
    (CellText.lines (titleRequest title)).length = 1 ↔ OneLine title := by
  rw [CellText.length_lines_eq_one_iff (roomy_heading.2 ·), glyphs_titleRequest, OneLine]
  simp only [List.forall_mem_map, List.map_map, Function.comp_def]
  exact and_congr_left' ⟨fun h hfeed => h '\n' hfeed rfl, fun h c hc heq => h (heq ▸ hc)⟩

theorem ne_feed_of_not_blank {c : Char} (h : Text.isBlank c = false) : c ≠ '\n' := by
  rintro rfl
  exact absurd h (by decide)

theorem textSize_titleRequest {title : String} (h : Text.allBlank title = false) :
    (CellText.textSize (titleRequest title)).height =
      47 * (CellText.lines (titleRequest title)).length := by
  have hletters : ∃ g ∈ CellText.glyphs (titleRequest title), g.char ≠ '\n' := by
    obtain ⟨c, hc, hblank⟩ := List.all_eq_false.1 h
    rw [glyphs_titleRequest]
    exact ⟨_, List.mem_map_of_mem hc, ne_feed_of_not_blank (by simpa using hblank)⟩
  have hpos : ∀ c, 0 < CellText.advance 36 c := by
    intro c
    unfold CellText.advance
    split <;> decide +kernel
  have hline : CellText.lineHeight 36 = 47 := by decide +kernel
  rw [CellText.textSize_height hpos hletters]
  exact congrArg (· * _) hline

/-- Set in cells, a text in a width that a row of pixels can have is never refused. -/
theorem setText_eq (hcells : s.resources.measure = CellText.measure) {r : TextRequest}
    (hroomy : Roomy r.size r.maxWidth) (hline : 0 < CellText.lineHeight r.size)
    (hrow : r.maxWidth * 4 ≤ Size.maxRowBytes) :
    s.setText r = .ok ⟨r, CellText.textSize r⟩ :=
  Resources.setText_of_cells hcells hroomy.1 hroomy.2 hline hrow

/-- Every title can be set in cells. -/
theorem titleBar_eq (hcells : s.resources.measure = CellText.measure) :
    s.titleBar = .ok ⟨[
      .ofShape (.rounded (canvasWidth - 12) 64 18 s.config.titleBackground) 6 0,
      .ofPicture s.titleIcon 24 12,
      .ofText ⟨titleRequest s.config.title, CellText.textSize (titleRequest s.config.title)⟩ 72 16,
      .ofText ⟨.plain "X" 40 Color.white, ⟨22, 52⟩⟩ (canvasWidth - 52) 16], titleHeight⟩ := by
  have htitle : s.setText (titleRequest s.config.title) = .ok _ :=
    setText_eq hcells roomy_heading (show 0 < CellText.lineHeight 36 by decide +kernel)
      (show 588 * 4 ≤ Size.maxRowBytes by decide)
  have hclose : s.setText (.plain "X" 40 Color.white) =
      .ok ⟨.plain "X" 40 Color.white, ⟨22, 52⟩⟩ := by
    have hsize : CellText.textSize (.plain "X" 40 Color.white) = ⟨22, 52⟩ := by decide +kernel
    rw [setText_eq hcells (roomy_of_widths (by decide) (by decide +kernel) (by decide +kernel))
      (by decide +kernel) (by decide), hsize]
  exact bind_eq_ok_iff.2 ⟨_, htitle, bind_eq_ok_iff.2 ⟨_, hclose, rfl⟩⟩

/-! ### Where the title bar ends -/

/-- The title bar ends within its height exactly when the title takes one line. -/
theorem titleBar_contained_iff (hcells : s.resources.measure = CellText.measure)
    (htitle : Text.allBlank s.config.title = false) {bar : Strip} (h : s.titleBar = .ok bar) :
    bar.Contained ↔ OneLine s.config.title := by
  obtain rfl := Except.ok.inj ((titleBar_eq hcells).symm.trans h)
  have hicon : s.titleIcon.size.height ≤ 36 := (titleIcon_le s).2
  have hheight := textSize_titleRequest htitle
  have hlines := CellText.length_lines_pos (titleRequest s.config.title)
  rw [← length_lines_titleRequest]
  simp only [Strip.Contained, List.forall_mem_cons, Primitive.bottom_ofShape,
    Primitive.bottom_ofPicture, Primitive.bottom_ofText, Shape.size_rounded, hheight, titleHeight]
  constructor
  · rintro ⟨-, -, htext, -⟩
    omega
  · intro hone
    rw [hone]
    exact ⟨by omega, by omega, by omega, by omega, by simp⟩

/-- **The title bar is clear of what lies below it exactly when its title takes one line.** -/
theorem titleBar_clear_iff (s : Scene) (hcells : s.resources.measure = CellText.measure)
    (htitle : Text.allBlank s.config.title = false) :
    ∃ header, s.header = .ok header ∧ header.cursor = topMargin + titleHeight ∧
      ((∀ p ∈ header.primitives, p.bottom ≤ header.cursor) ↔ OneLine s.config.title) ∧
      (OneLine s.config.title → ∀ blocks watermark f, s.flow blocks watermark = .ok f →
        f.cursor < Binary.maxCount → ∃ below, f.primitives = header.primitives ++ below ∧
          ∀ p ∈ header.primitives, p.bottom ≤ f.cursor ∧ ∀ q ∈ below, p.bottom ≤ q.top) := by
  obtain ⟨bar, hbar⟩ : ∃ bar, s.titleBar = .ok bar := ⟨_, titleBar_eq hcells⟩
  have hheader := header_eq hbar
  have hcontained := titleBar_contained_iff hcells htitle hbar
  have hheight : bar.height = titleHeight := by
    obtain ⟨title, close, -, -, rfl⟩ := of_titleBar hbar
    rfl
  have hends : (∀ p ∈ bar.primitives.map (Primitive.lowered topMargin),
      p.bottom ≤ topMargin + titleHeight) ↔ OneLine s.config.title := by
    rw [← hcontained, List.forall_mem_map]
    simp only [Strip.Contained, Primitive.lowered_bottom, hheight, Nat.add_comm topMargin,
      Nat.add_le_add_iff_right]
  refine ⟨_, hheader, rfl, hends, fun hone blocks watermark f hflow hrange => ?_⟩
  obtain ⟨header, slots, placed, mark, hheader', hcursor, hlaid, hstart, hfinish, heq⟩ :=
    slots_of_flow hflow hrange
  obtain rfl := Except.ok.inj (hheader.symm.trans hheader')
  have hblocks := hlaid.cursor_le
  have hmark := mark.start_le
  simp only at hblocks
  refine ⟨(slots ++ [mark]).flatMap Slot.primitives, by rw [heq], fun p hp => ?_⟩
  have hbottom := hends.2 hone p hp
  refine ⟨by omega, fun q hq => ?_⟩
  obtain ⟨slot, hslot, hq⟩ := List.mem_flatMap.1 hq
  have htop := (slot.inside q hq).1
  rcases List.mem_append.1 hslot with hslot | hslot
  · have hbetween := (hlaid.between hslot).1
    simp only at hbetween
    omega
  · obtain rfl := List.mem_singleton.1 hslot
    omega

/-- The title that a chat has at first takes one line. -/
theorem titleBar_clear_of_standard :
    let s : Scene := ⟨⟨CellText.measure, fun _ _ => none, fun _ => none, Catalog.ofRecords [],
      ⟨[], [], [], [], []⟩, ⟨[]⟩⟩, .standard, [], []⟩
    ∃ header, s.header = .ok header ∧ ∀ p ∈ header.primitives, p.bottom ≤ header.cursor := by
  intro s
  obtain ⟨header, hheader, -, hclear, -⟩ := titleBar_clear_iff s rfl (by decide +kernel)
  exact ⟨header, hheader, hclear.2 (by decide +kernel)⟩

/-- Thirty letters are a title that can be set.  It takes two lines, which end below the rows
of the title bar and below the canvas of a chat that has nothing else. -/
theorem titleBar_overruns :
    let title := "abcdefghijklmnopqrstuvwxyzabcd"
    let config : ChatConfig := { ChatConfig.standard with title := title }
    let s : Scene := ⟨⟨CellText.measure, fun _ _ => none, fun _ => none, Catalog.ofRecords [],
      ⟨[], [], [], [], []⟩, ⟨[]⟩⟩, config, [], []⟩
    ChatConfig.standard.set (fun _ => .error .file) "title" title = (.ok (), config) ∧
      ∃ header p, s.header = .ok header ∧ p ∈ header.primitives ∧ header.cursor < p.bottom ∧
        ∃ d, s.render [] none = .ok d ∧ p ∈ d.primitives ∧ d.size.height < p.bottom := by
  intro title config s
  have hdrawn : (s.render [] none).toOption.isSome = true := by decide +kernel
  have hsize : CellText.textSize (titleRequest title) = ⟨580, 94⟩ := by decide +kernel
  have hbar := titleBar_eq (s := s) rfl
  obtain ⟨header, hheader⟩ : ∃ header, s.header = .ok header := ⟨_, header_eq hbar⟩
  obtain ⟨bar, hbar', heq⟩ := of_header hheader
  obtain rfl := Except.ok.inj (hbar.symm.trans hbar')
  let p := (Primitive.ofText ⟨titleRequest title, CellText.textSize (titleRequest title)⟩ 72
    16).lowered topMargin
  have hcursor : header.cursor = 92 := by rw [heq]; rfl
  have hbottom : p.bottom = 118 := by
    rw [Primitive.lowered_bottom, Primitive.bottom_ofText, hsize]
    rfl
  have hmem : p ∈ header.primitives := by
    rw [heq]
    exact List.mem_map_of_mem
      (List.mem_cons_of_mem _ (List.mem_cons_of_mem _ List.mem_cons_self))
  have hset : ChatConfig.standard.set (fun _ => .error .file) "title" title =
      (.ok (), config) := by
    have htrim : Text.trim title = title := by decide +kernel
    have haccepted :
        ChatConfig.accepted? (fun _ => .error .file) .title ("title", title) = some title :=
      ChatConfig.accepted?_eq_some_iff.2 ⟨rfl, by decide +kernel, congrArg Except.ok htrim⟩
    exact ChatConfig.set_of_accepted haccepted .standard
  refine ⟨hset, header, p, hheader, hmem, by omega, ?_⟩
  cases hrender : s.render [] none with
  | error e => simp [hrender, Except.toOption] at hdrawn
  | ok d =>
    rw [Scene.render_eq_flow] at hrender
    obtain ⟨f, hflow, hfinish⟩ := bind_eq_ok_iff.1 hrender
    have hflow' : s.flow [] none = .ok header := bind_eq_ok_iff.2 ⟨header, hheader, rfl⟩
    obtain rfl := Except.ok.inj (hflow'.symm.trans hflow)
    refine ⟨d, rfl, by rwa [Flow.of_finish hfinish], ?_⟩
    rw [Flow.of_finish hfinish, hbottom, Flow.canvasSize, hcursor]
    exact (by decide : max (max 92 0) 1 < 118)

end Chat
end DialogueSheet
