/-
# Chats continued by further blocks

A block leaves the same strips wherever it starts, so its row with the gap below it is one strip
(`Scene.spaced`).  The blocks of a chat leave the stack
of these strips below the title bar (`of_addBlocks`, `addBlocks_eq`), and stacks of two lists
are stacked one above the other.  A chat of two lists is therefore the first chat continued
by the rows of the second (`render_append`).
-/
import DialogueSheet.Proofs.Chat.Sheet

namespace DialogueSheet
namespace Chat

variable {s : Scene}

/-! ### Rows with their gaps -/

/-- The row of a block with the gap below it. -/
def Scene.spaced (s : Scene) (b : Block) : Except Failure Strip := do
  let strips ← s.block b
  return ⟨(rowOf strips).primitives, (rowOf strips).height + blockGap⟩

theorem spaced_eq_ok_iff {b : Block} {row : Strip} :
    s.spaced b = .ok row ↔ ∃ strips, s.block b = .ok strips ∧
      row = ⟨(rowOf strips).primitives, (rowOf strips).height + blockGap⟩ := by
  constructor
  · intro h
    obtain ⟨strips, hstrips, hrow⟩ := bind_eq_ok_iff.1 h
    exact ⟨strips, hstrips, (Except.ok.inj hrow).symm⟩
  · rintro ⟨strips, hstrips, rfl⟩
    exact bind_eq_ok_iff.2 ⟨strips, hstrips, rfl⟩

theorem spaced_contained {b : Block} {row : Strip} (h : s.spaced b = .ok row) :
    row.Contained := by
  obtain ⟨strips, hstrips, rfl⟩ := spaced_eq_ok_iff.1 h
  intro p hp
  have hbottom := block_contained hstrips p hp
  simp only
  omega

/-- A placed block leaves its row with the gap on the flow. -/
theorem of_addBlock {f g : Flow} {b : Block} (h : s.addBlock f b = .ok g)
    (hrange : g.cursor < Binary.maxCount) :
    ∃ row, s.spaced b = .ok row ∧ g = f.laying row := by
  obtain ⟨strips, hstrips, rfl⟩ := eq_of_addBlock h hrange
  refine ⟨_, spaced_eq_ok_iff.2 ⟨strips, hstrips, rfl⟩, ?_⟩
  simp [Flow.laying, Flow.draw, Nat.add_assoc]

theorem addBlock_eq {f : Flow} {b : Block} {row : Strip} (h : s.spaced b = .ok row)
    (hrange : f.cursor + row.height < Binary.maxCount) :
    s.addBlock f b = .ok (f.laying row) := by
  obtain ⟨strips, hstrips, rfl⟩ := spaced_eq_ok_iff.1 h
  have hheight : (Strip.stack strips).height ≤ (rowOf strips).height := Nat.le_max_left ..
  simp only at hrange
  have hplaced : f.addStrips strips = .ok (f.laying (Strip.stack strips)) :=
    Flow.addStrips_eq (by omega)
  obtain ⟨g, hg⟩ := exists_addBlock hstrips f
  obtain ⟨strips', hstrips', hgap⟩ := Scene.addBlock_eq_ok_iff.1 hg
  obtain rfl := Except.ok.inj (hstrips.symm.trans hstrips')
  have hlaying := Except.ok.inj ((f.addStrips_eq_foldl strips).symm.trans hplaced)
  rw [padded, hlaying] at hgap
  -- the padding and the gap move the cursor by what the row is higher than the stack
  have hcursor : g.cursor ≤ f.cursor + (rowOf strips).height + blockGap := by
    have hlaid : (f.laying (Strip.stack strips)).cursor =
        f.cursor + (Strip.stack strips).height := rfl
    have hrow : (rowOf strips).height = max (Strip.stack strips).height minRowHeight := rfl
    have hpadded : ((f.laying (Strip.stack strips)).padRow f.cursor minRowHeight).cursor ≤
        max (f.laying (Strip.stack strips)).cursor (f.cursor + minRowHeight) :=
      Flow.cursor_padRow_le (hlaid ▸ Nat.le_add_right f.cursor (Strip.stack strips).height)
    have hadvanced := ((f.laying (Strip.stack strips)).padRow f.cursor
      minRowHeight).cursor_advance_le blockGap
    rw [hgap]
    omega
  obtain ⟨row, hrow, rfl⟩ := of_addBlock hg (by omega)
  obtain ⟨strips', hstrips', rfl⟩ := spaced_eq_ok_iff.1 hrow
  obtain rfl := Except.ok.inj (hstrips.symm.trans hstrips')
  exact hg

/-! ### Blocks one after the other -/

/-- **Placed blocks leave the stack of their rows.** -/
theorem of_addBlocks {f g : Flow} {blocks : List Block} (h : s.addBlocks f blocks = .ok g)
    (hrange : g.cursor < Binary.maxCount) :
    ∃ rows, blocks.mapM s.spaced = .ok rows ∧ g = f.laying (Strip.stack rows) := by
  induction blocks generalizing f with
  | nil =>
    obtain rfl := Except.ok.inj h
    exact ⟨[], rfl, by simp [Flow.laying, Flow.draw, Strip.stack, Strip.gap]⟩
  | cons b blocks ih =>
    obtain ⟨next, hnext, hrest⟩ := bind_eq_ok_iff.1 h
    obtain ⟨rows, hrows, hg⟩ := ih hrest
    have hle : next.cursor ≤ g.cursor := by
      rw [hg]
      exact Nat.le_add_right ..
    obtain ⟨row, hrow, rfl⟩ := of_addBlock hnext (Nat.lt_of_le_of_lt hle hrange)
    refine ⟨row :: rows, ?_, ?_⟩
    · rw [List.mapM_cons]
      exact bind_eq_ok_iff.2 ⟨row, hrow, bind_eq_ok_iff.2 ⟨rows, hrows, rfl⟩⟩
    · rw [hg, ← Flow.laying_above]
      rfl

/-- Blocks whose rows are measured are placed, as far as the cursor reaches. -/
theorem addBlocks_eq {f : Flow} {blocks : List Block} {rows : List Strip}
    (h : blocks.mapM s.spaced = .ok rows)
    (hrange : f.cursor + (Strip.stack rows).height < Binary.maxCount) :
    s.addBlocks f blocks = .ok (f.laying (Strip.stack rows)) := by
  induction blocks generalizing f rows with
  | nil =>
    obtain rfl : [] = rows := Except.ok.inj h
    simp [Scene.addBlocks, Flow.laying, Flow.draw, Strip.stack, Strip.gap]
  | cons b blocks ih =>
    rw [List.mapM_cons] at h
    obtain ⟨row, hrow, hrest⟩ := bind_eq_ok_iff.1 h
    obtain ⟨rows', hrows', hcons⟩ := bind_eq_ok_iff.1 hrest
    obtain rfl : row :: rows' = rows := Except.ok.inj hcons
    rw [Strip.stack_cons_height] at hrange
    have hfirst : s.addBlock f b = .ok (f.laying row) := addBlock_eq hrow (by omega)
    have hlaying : (f.laying row).cursor = f.cursor + row.height := rfl
    have hlater := ih (f := f.laying row) hrows' (by omega)
    change s.addBlock f b >>= _ = _
    refine bind_eq_ok_iff.2 ⟨f.laying row, hfirst, ?_⟩
    rw [hlater, ← Flow.laying_above]
    rfl

theorem stack_rows_contained {blocks : List Block} {rows : List Strip}
    (h : blocks.mapM s.spaced = .ok rows) : (Strip.stack rows).Contained := by
  refine Strip.Contained.stack fun row hrow => ?_
  obtain ⟨b, -, hb⟩ := exists_of_mem_mapM h hrow
  exact spaced_contained hb

/-! ### Whole chats -/

/-- A title bar with rows below it. -/
def sheetOf (bar : Strip) (rows : List Strip) : Flow :=
  Flow.laying ⟨canvasWidth, topMargin + titleHeight,
    bar.primitives.map (Primitive.lowered topMargin)⟩ (Strip.stack rows)

theorem sheetOf_cursor (bar : Strip) (rows : List Strip) :
    (sheetOf bar rows).cursor = topMargin + titleHeight + (Strip.stack rows).height := rfl

theorem sheetOf_primitives (bar : Strip) (rows : List Strip) :
    (sheetOf bar rows).primitives = bar.primitives.map (Primitive.lowered topMargin) ++
      (Strip.stack rows).primitives.map (Primitive.lowered (topMargin + titleHeight)) := rfl

theorem sheetOf_canvasSize (bar : Strip) (rows : List Strip) :
    (sheetOf bar rows).canvasSize 0 = ⟨canvasWidth, (sheetOf bar rows).cursor⟩ := by
  have hpos : 1 ≤ (sheetOf bar rows).cursor := by
    rw [sheetOf_cursor, topMargin]
    omega
  have hheight : max (max (sheetOf bar rows).cursor 0) 1 = (sheetOf bar rows).cursor := by omega
  rw [Flow.canvasSize, hheight]
  rfl

/-- The canvas is as narrow as every chat, and never without a row. -/
theorem sheetOf_allocatable (bar : Strip) (rows : List Strip) :
    ((sheetOf bar rows).canvasSize 0).allocatable = true := by
  have hpos : (sheetOf bar rows).cursor ≠ 0 := by
    rw [sheetOf_cursor, topMargin]
    omega
  rw [sheetOf_canvasSize]
  simp [Size.allocatable, hpos, canvasWidth, Size.maxRowBytes]

/-- A chat without a watermark is a title bar with the rows of its blocks. -/
theorem of_render {blocks : List Block} {d : Drawing} (h : s.render blocks none = .ok d)
    (hrange : d.size.height < Binary.maxCount) :
    ∃ bar rows, s.titleBar = .ok bar ∧ blocks.mapM s.spaced = .ok rows ∧
      (sheetOf bar rows).finish background 0 = .ok d := by
  rw [Scene.render_eq_flow] at h
  obtain ⟨f, hflow, hfinish⟩ := bind_eq_ok_iff.1 h
  obtain ⟨header, hheader, hrest⟩ := bind_eq_ok_iff.1 hflow
  obtain ⟨placed, hplaced, hmark⟩ := bind_eq_ok_iff.1 hrest
  obtain rfl : placed = f := Except.ok.inj hmark
  obtain ⟨bar, hbar, rfl⟩ := of_header hheader
  have hcursor : placed.cursor ≤ d.size.height := by
    rw [Flow.of_finish hfinish, Flow.canvasSize]
    simp only
    omega
  obtain ⟨rows, hrows, rfl⟩ := of_addBlocks hplaced (Nat.lt_of_le_of_lt hcursor hrange)
  exact ⟨bar, rows, hbar, hrows, hfinish⟩

theorem render_eq {blocks : List Block} {bar : Strip} {rows : List Strip}
    (hbar : s.titleBar = .ok bar) (hrows : blocks.mapM s.spaced = .ok rows)
    (hrange : (sheetOf bar rows).cursor < Binary.maxCount) :
    s.render blocks none = (sheetOf bar rows).finish background 0 := by
  have hplaced := addBlocks_eq (f := ⟨canvasWidth, topMargin + titleHeight,
    bar.primitives.map (Primitive.lowered topMargin)⟩) hrows hrange
  have hflow : s.flow blocks none = .ok (sheetOf bar rows) :=
    bind_eq_ok_iff.2 ⟨_, header_eq hbar, bind_eq_ok_iff.2 ⟨_, hplaced, rfl⟩⟩
  rw [Scene.render_eq_flow, hflow]
  rfl

/-- The drawing `whole` is `first` continued by what `second` has below its title bar. -/
structure Continued (s : Scene) (first second whole : Drawing) : Prop where
  height_eq : whole.size.height =
    first.size.height + second.size.height - (topMargin + titleHeight)
  primitives_eq : ∃ header below, s.header = .ok header ∧
    second.primitives = header.primitives ++ below ∧
    whole.primitives = first.primitives ++
      below.map (Primitive.lowered (first.size.height - (topMargin + titleHeight)))

/-- Below the title bar two lists of rows are one list. -/
theorem sheetOf_append (bar : Strip) (upper lower : List Strip) :
    (sheetOf bar (upper ++ lower)).primitives = (sheetOf bar upper).primitives ++
      ((Strip.stack lower).primitives.map (Primitive.lowered (topMargin + titleHeight))).map
        (Primitive.lowered (Strip.stack upper).height) := by
  simp only [sheetOf_primitives, Strip.stack_append, Strip.above, List.map_append, List.map_map,
    Function.comp_def, Primitive.lowered_lowered, List.append_assoc, Nat.add_comm]

theorem continued_of_finish {bar : Strip} {upper lower : List Strip} {dx dy d : Drawing}
    (hbar : s.titleBar = .ok bar) (hx : (sheetOf bar upper).finish background 0 = .ok dx)
    (hy : (sheetOf bar lower).finish background 0 = .ok dy)
    (hd : (sheetOf bar (upper ++ lower)).finish background 0 = .ok d) :
    Continued s dx dy d := by
  rw [Flow.of_finish hx, Flow.of_finish hy, Flow.of_finish hd]
  refine ⟨?_, _, _, header_eq hbar, sheetOf_primitives bar lower, ?_⟩
  · simp only [sheetOf_canvasSize, sheetOf_cursor, Strip.stack_append, Strip.above]
    omega
  · have hoffset : ((sheetOf bar upper).canvasSize 0).height - (topMargin + titleHeight) =
        (Strip.stack upper).height := by
      rw [sheetOf_canvasSize]
      simp only [sheetOf_cursor]
      omega
    simp only [hoffset]
    exact sheetOf_append bar upper lower

/-- Both lists are painted where the whole is. -/
theorem exists_finish_of_append {bar : Strip} {upper lower : List Strip} {d : Drawing}
    (hd : (sheetOf bar (upper ++ lower)).finish background 0 = .ok d) :
    (∃ dx, (sheetOf bar upper).finish background 0 = .ok dx) ∧
      ∃ dy, (sheetOf bar lower).finish background 0 = .ok dy := by
  obtain ⟨-, hpaint, -⟩ := Flow.finish_eq_ok_iff.1 hd
  rw [sheetOf_append] at hpaint
  have hupper : ∀ p ∈ (sheetOf bar upper).primitives, Flow.paintFailure? p = none :=
    fun p hp => hpaint p (List.mem_append_left _ hp)
  have hlower : ∀ p ∈ (sheetOf bar lower).primitives, Flow.paintFailure? p = none := by
    intro p hp
    rw [sheetOf_primitives] at hp
    rcases List.mem_append.1 hp with hp | hp
    · exact hupper p (sheetOf_primitives bar upper ▸ List.mem_append_left _ hp)
    · have hshown := hpaint _ (List.mem_append_right _ (List.mem_map_of_mem hp))
      exact ((Flow.paintFailure?_lowered p _).1 hshown).1
  exact ⟨⟨_, Flow.finish_eq_ok_iff.2 ⟨sheetOf_allocatable bar upper, hupper, rfl⟩⟩,
    ⟨_, Flow.finish_eq_ok_iff.2 ⟨sheetOf_allocatable bar lower, hlower, rfl⟩⟩⟩

/-- The whole is painted where both lists are, as far down as a canvas reaches. -/
theorem exists_append_of_finish {bar : Strip} {upper lower : List Strip} {dx dy : Drawing}
    (hcontained : (Strip.stack lower).Contained)
    (hx : (sheetOf bar upper).finish background 0 = .ok dx)
    (hy : (sheetOf bar lower).finish background 0 = .ok dy)
    (hrange : (sheetOf bar (upper ++ lower)).cursor ≤ Flow.maxOffset) :
    ∃ d, (sheetOf bar (upper ++ lower)).finish background 0 = .ok d := by
  obtain ⟨-, hupper, -⟩ := Flow.finish_eq_ok_iff.1 hx
  obtain ⟨-, hlower, -⟩ := Flow.finish_eq_ok_iff.1 hy
  refine ⟨_, Flow.finish_eq_ok_iff.2 ⟨sheetOf_allocatable bar _, fun p hp => ?_, rfl⟩⟩
  rw [sheetOf_append] at hp
  rcases List.mem_append.1 hp with hp | hp
  · exact hupper p hp
  · obtain ⟨q, hq, rfl⟩ := List.mem_map.1 hp
    have hshown := hlower q (sheetOf_primitives bar lower ▸ List.mem_append_right _ hq)
    obtain ⟨r, hr, rfl⟩ := List.mem_map.1 hq
    have hbottom := hcontained r hr
    have htop : r.top ≤ r.bottom := Nat.le_add_right ..
    rw [sheetOf_cursor, Strip.stack_append] at hrange
    simp only [Strip.above] at hrange
    refine (Flow.paintFailure?_lowered _ _).2 ⟨hshown, ?_⟩
    rw [Primitive.lowered_top]
    omega

/-- A whole in range has parts that it continues. -/
theorem continued_of_whole {xs ys : List Block} {d : Drawing}
    (h : s.render (xs ++ ys) none = .ok d) (hrange : d.size.height < Binary.maxCount) :
    ∃ dx dy, s.render xs none = .ok dx ∧ s.render ys none = .ok dy ∧ Continued s dx dy d := by
  obtain ⟨bar, rows, hbar, hrows, hd⟩ := of_render h hrange
  obtain ⟨upper, lower, hupper, hlower, rfl⟩ := mapM_append_eq_ok_iff.1 hrows
  obtain ⟨⟨dx, hdx⟩, dy, hdy⟩ := exists_finish_of_append hd
  have hcursor : (sheetOf bar (upper ++ lower)).cursor < Binary.maxCount := by
    rw [Flow.of_finish hd, sheetOf_canvasSize] at hrange
    exact hrange
  rw [sheetOf_cursor, Strip.stack_append] at hcursor
  simp only [Strip.above] at hcursor
  refine ⟨dx, dy, ?_, ?_, continued_of_finish hbar hdx hdy hd⟩
  · rw [render_eq hbar hupper (by rw [sheetOf_cursor]; omega), hdx]
  · rw [render_eq hbar hlower (by rw [sheetOf_cursor]; omega), hdy]

/-- Parts are continued to a whole, as far down as a canvas reaches. -/
theorem exists_whole {xs ys : List Block} {dx dy : Drawing} (hx : s.render xs none = .ok dx)
    (hy : s.render ys none = .ok dy)
    (hrange : dx.size.height + dy.size.height ≤ Flow.maxOffset + (topMargin + titleHeight)) :
    ∃ d, s.render (xs ++ ys) none = .ok d ∧ Continued s dx dy d := by
  have hbound : Flow.maxOffset + (topMargin + titleHeight) < Binary.maxCount := by decide
  obtain ⟨bar, upper, hbar, hupper, hdx⟩ := of_render hx (by omega)
  obtain ⟨bar', lower, hbar', hlower, hdy⟩ := of_render hy (by omega)
  obtain rfl := Except.ok.inj (hbar.symm.trans hbar')
  have hcursor : (sheetOf bar (upper ++ lower)).cursor ≤ Flow.maxOffset := by
    rw [Flow.of_finish hdx, Flow.of_finish hdy, sheetOf_canvasSize, sheetOf_canvasSize] at hrange
    simp only [sheetOf_cursor, Strip.stack_append, Strip.above] at hrange ⊢
    omega
  obtain ⟨d, hd⟩ := exists_append_of_finish (stack_rows_contained hlower) hdx hdy hcursor
  refine ⟨d, ?_, continued_of_finish hbar hdx hdy hd⟩
  rw [render_eq hbar (mapM_append_eq_ok_iff.2 ⟨upper, lower, hupper, hlower, rfl⟩) (by omega), hd]

/-- **A chat of two lists of blocks is the chat of the first continued by the second.** -/
theorem render_append (K : Codec) (resources : Resources) (config : ChatConfig)
    (given : List Student) (contents : List FileContent) (images : List Picture)
    (xs ys : List Block) (himages : inlinePictures K contents = .ok images) :
    let s : Scene := ⟨resources, config, given, images⟩
    let draw (blocks : List Block) := render K resources config given contents blocks none
    (∀ d, draw (xs ++ ys) = .ok d → d.size.height < Binary.maxCount →
      ∃ dx dy, draw xs = .ok dx ∧ draw ys = .ok dy ∧ Continued s dx dy d) ∧
    ∀ dx dy, draw xs = .ok dx → draw ys = .ok dy →
      dx.size.height + dy.size.height ≤ Flow.maxOffset + (topMargin + titleHeight) →
      ∃ d, draw (xs ++ ys) = .ok d ∧ Continued s dx dy d := by
  intro s draw
  have hdraw : ∀ blocks, draw blocks = s.render blocks none := by
    intro blocks
    simp only [draw, render, himages]
    rfl
  simp only [hdraw]
  exact ⟨fun d hd hrange => continued_of_whole hd hrange,
    fun dx dy hx hy hrange => exists_whole hx hy hrange⟩

/-- A line with a picture, continued by a choice of two. -/
theorem render_append_line_choice :
    let resources : Resources := ⟨CellText.measure, fun _ _ => none, fun _ => none,
      Catalog.ofRecords [], ⟨[], [], [], [], []⟩, ⟨[]⟩⟩
    let s : Scene := ⟨resources, .standard, [], [⟨.inline 1, ⟨300, 200⟩⟩]⟩
    let draw (blocks : List Block) :=
      render .bySize resources .standard [] [.picture ⟨600, 400⟩ .png 5000] blocks none
    ∃ dx dy d, draw [.speaker ⟨1, "Aru", .cn⟩ ["hi [img:1]"]] = .ok dx ∧
      draw [.choices ["yes", "no"]] = .ok dy ∧
      draw [.speaker ⟨1, "Aru", .cn⟩ ["hi [img:1]"], .choices ["yes", "no"]] = .ok d ∧
      Continued s dx dy d := by
  intro resources s draw
  have hheights :
      (draw [.speaker ⟨1, "Aru", .cn⟩ ["hi [img:1]"]]).toOption.map (·.size.height) = some 438 ∧
        (draw [.choices ["yes", "no"]]).toOption.map (·.size.height) = some 352 := by
    decide +kernel
  obtain ⟨-, hparts⟩ := render_append .bySize resources .standard [] [.picture ⟨600, 400⟩ .png 5000]
    [⟨.inline 1, ⟨300, 200⟩⟩] [.speaker ⟨1, "Aru", .cn⟩ ["hi [img:1]"]]
    [.choices ["yes", "no"]] rfl
  cases hx : draw [.speaker ⟨1, "Aru", .cn⟩ ["hi [img:1]"]] with
  | error e => simp [hx, Except.toOption] at hheights
  | ok dx =>
    cases hy : draw [.choices ["yes", "no"]] with
    | error e => simp [hy, Except.toOption] at hheights
    | ok dy =>
      simp only [hx, hy, Except.toOption, Option.map_some, Option.some.injEq] at hheights
      have hrange : dx.size.height + dy.size.height ≤
          Flow.maxOffset + (topMargin + titleHeight) := by
        rw [hheights.1, hheights.2]
        decide
      obtain ⟨d, hd, hcontinued⟩ := hparts dx dy hx hy hrange
      exact ⟨dx, dy, d, rfl, rfl, hd, hcontinued⟩

end Chat
end DialogueSheet
