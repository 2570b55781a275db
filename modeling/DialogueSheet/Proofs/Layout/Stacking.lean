/-
# Strips down a flow

A strip that is placed has its primitives at offsets from the cursor, so nothing of it is ever
refused (`addStrip_eq`).  Strips placed one below the other leave the flow as their stack does,
as long as the cursor does not come to its stop (`eq_of_addStrips`).

A strip is contained when all it draws ends within its height.  A stack of contained strips
is contained (`Contained.stack`), and wherever a contained strip is placed it draws in a slot
of its own (`Strip.slot`).
-/
import DialogueSheet.Layout.Flow

namespace DialogueSheet

/-! ### Sizes -/

namespace Shape

@[simp] theorem size_rect (width height : Nat) (fill : Color) :
    (rect width height fill).size = ⟨width, height⟩ := rfl

@[simp] theorem size_rounded (width height : Nat) (radius : Binary32) (fill : Color) :
    (rounded width height radius fill).size = ⟨width, height⟩ := rfl

@[simp] theorem size_polygon (width height : Nat) (points : List (Binary32 × Binary32))
    (fill : Color) : (polygon width height points fill).size = ⟨width, height⟩ := rfl

@[simp] theorem size_withStroke (s : Shape) (color : Color) (width : Binary32) :
    (s.withStroke color width).size = s.size := rfl

end Shape

namespace Primitive

@[simp] theorem bottom_ofShape (s : Shape) (left : Int) (top : Nat) :
    (ofShape s left top).bottom = top + s.size.height := rfl

@[simp] theorem bottom_ofText (t : SetText) (left : Int) (top : Nat) :
    (ofText t left top).bottom = top + t.size.height := rfl

@[simp] theorem bottom_ofPicture (p : Picture) (left : Int) (top : Nat) :
    (ofPicture p left top).bottom = top + p.size.height := rfl

end Primitive

/-! ### Offsets -/

namespace Primitive

@[simp] theorem lowered_ofShape (s : Shape) (left : Int) (top offset : Nat) :
    (ofShape s left top).lowered offset = ofShape s left (top + offset) := rfl

@[simp] theorem lowered_ofText (t : SetText) (left : Int) (top offset : Nat) :
    (ofText t left top).lowered offset = ofText t left (top + offset) := rfl

@[simp] theorem lowered_ofPicture (p : Picture) (left : Int) (top offset : Nat) :
    (ofPicture p left top).lowered offset = ofPicture p left (top + offset) := rfl

@[simp] theorem lowered_lowered (a b : Nat) (p : Primitive) :
    (p.lowered a).lowered b = p.lowered (b + a) := by
  simp [lowered, Nat.add_assoc, Nat.add_comm b a]

@[simp] theorem lowered_content (offset : Nat) (p : Primitive) :
    (p.lowered offset).content = p.content := rfl

@[simp] theorem lowered_top (offset : Nat) (p : Primitive) :
    (p.lowered offset).top = p.top + offset := rfl

@[simp] theorem lowered_bottom (offset : Nat) (p : Primitive) :
    (p.lowered offset).bottom = p.bottom + offset := by
  simp [bottom, Nat.add_right_comm]

end Primitive

/-! ### Stacks -/

namespace Strip

/-- Strips one below the other as one strip. -/
def stack : List Strip → Strip
  | [] => gap 0
  | s :: rest =>
    let below := stack rest
    ⟨s.primitives ++ below.primitives.map (Primitive.lowered s.height), s.height + below.height⟩

/-- All that the strip draws ends within its height. -/
def Contained (s : Strip) : Prop := ∀ p ∈ s.primitives, p.bottom ≤ s.height

theorem contained_gap (height : Nat) : (gap height).Contained := by
  simp [Contained, gap]

theorem mem_stack_cons {p : Primitive} {s : Strip} {rest : List Strip} :
    p ∈ (stack (s :: rest)).primitives ↔
      p ∈ s.primitives ∨ ∃ q ∈ (stack rest).primitives, q.lowered s.height = p := by
  simp [stack]

theorem stack_cons_height (s : Strip) (rest : List Strip) :
    (stack (s :: rest)).height = s.height + (stack rest).height := rfl

/-- A strip with another one below it. -/
def above (s t : Strip) : Strip :=
  ⟨s.primitives ++ t.primitives.map (Primitive.lowered s.height), s.height + t.height⟩

/-- Two stacks one above the other are one stack. -/
theorem stack_append (upper lower : List Strip) :
    stack (upper ++ lower) = (stack upper).above (stack lower) := by
  induction upper with
  | nil =>
    have hlowered : Primitive.lowered 0 = id := rfl
    simp [stack, gap, above, hlowered]
  | cons s rest ih =>
    rw [List.cons_append, stack, ih]
    simp [stack, above, Nat.add_assoc, Function.comp_def]

theorem stack_singleton (s : Strip) : stack [s] = s := by
  simp [stack, gap]

/-- Below a contained strip, a strip passes its lower end as far as it does alone. -/
theorem above_bottom_le_iff {s t : Strip} (hs : s.Contained) {room : Nat} :
    (∀ p ∈ (s.above t).primitives, p.bottom ≤ (s.above t).height + room) ↔
      ∀ p ∈ t.primitives, p.bottom ≤ t.height + room := by
  simp only [above, List.forall_mem_append, List.forall_mem_map, Primitive.lowered_bottom]
  constructor
  · rintro ⟨-, hall⟩ p hp
    have hbottom := hall p hp
    omega
  · intro hall
    refine ⟨fun p hp => ?_, fun p hp => ?_⟩
    · have hbottom := hs p hp
      omega
    · have hbottom := hall p hp
      omega

theorem Contained.stack {strips : List Strip} (h : ∀ s ∈ strips, s.Contained) :
    (stack strips).Contained := by
  induction strips with
  | nil => exact contained_gap 0
  | cons s rest ih =>
    have hrest : (Strip.stack rest).Contained := ih fun t ht => h t (List.mem_cons_of_mem _ ht)
    intro p hp
    rw [stack_cons_height]
    rcases mem_stack_cons.1 hp with hp | ⟨q, hq, rfl⟩
    · have hbottom := h s List.mem_cons_self p hp
      omega
    · have hbottom := hrest q hq
      rw [Primitive.lowered_bottom]
      omega

end Strip

/-! ### Slots -/

/-- The rows between two offsets, and what is drawn there and nowhere else. -/
structure Slot where
  start : Nat
  finish : Nat
  start_le : start ≤ finish
  primitives : List Primitive
  inside : ∀ p ∈ primitives, start ≤ p.top ∧ p.bottom ≤ finish

/-- The slot of a contained strip at an offset. -/
def Strip.slot (s : Strip) (hs : s.Contained) (offset : Nat) : Slot where
  start := offset
  finish := offset + s.height
  start_le := Nat.le_add_right ..
  primitives := s.primitives.map (Primitive.lowered offset)
  inside p hp := by
    obtain ⟨q, hq, rfl⟩ := List.mem_map.1 hp
    have hbottom := hs q hq
    rw [Primitive.lowered_top, Primitive.lowered_bottom]
    omega

/-- Nothing in a slot comes to a row of a slot that starts where it ends or below. -/
theorem Slot.bottom_le_top {a b : Slot} (h : a.finish ≤ b.start) {p q : Primitive}
    (hp : p ∈ a.primitives) (hq : q ∈ b.primitives) : p.bottom ≤ q.top :=
  Nat.le_trans (Nat.le_trans (a.inside p hp).2 h) (b.inside q hq).1

/-! ### Placing strips -/

namespace Flow

@[simp] theorem primitives_advance (f : Flow) (height : Nat) :
    (f.advance height).primitives = f.primitives := rfl

@[simp] theorem primitives_padRow (f : Flow) (rowStart least : Nat) :
    (f.padRow rowStart least).primitives = f.primitives := by
  simp only [padRow]
  split <;> rfl

theorem cursor_lt_of_advance {f : Flow} {height : Nat}
    (h : (f.advance height).cursor < Binary.maxCount) : f.cursor < Binary.maxCount := by
  simp only [advance] at h
  omega

/-- A cursor that has not come to its stop moved all the way. -/
theorem advance_of_lt {f : Flow} {height : Nat}
    (h : (f.advance height).cursor < Binary.maxCount) :
    f.advance height = { f with cursor := f.cursor + height } := by
  simp only [advance] at h ⊢
  rw [Nat.min_eq_left (by omega)]

theorem padRow_of_lt {f : Flow} {rowStart least : Nat}
    (h : (f.padRow rowStart least).cursor < Binary.maxCount) :
    f.padRow rowStart least =
      { f with cursor := f.cursor + (least - (f.cursor - rowStart)) } := by
  simp only [padRow] at h ⊢
  split at h
  · rename_i hused
    rw [if_pos hused, advance_of_lt h]
  · rename_i hused
    rw [if_neg hused, Nat.sub_eq_zero_of_le (Nat.le_of_not_lt hused), Nat.add_zero]

theorem cursor_lt_of_padRow {f : Flow} {rowStart least : Nat}
    (h : (f.padRow rowStart least).cursor < Binary.maxCount) : f.cursor < Binary.maxCount := by
  rw [padRow_of_lt h] at h
  exact Nat.lt_of_le_of_lt (Nat.le_add_right ..) h

theorem cursor_advance_le (f : Flow) (height : Nat) :
    (f.advance height).cursor ≤ f.cursor + height := Nat.min_le_left ..

/-- A row is padded to its least height and no further. -/
theorem cursor_padRow_le {f : Flow} {rowStart least : Nat} (h : rowStart ≤ f.cursor) :
    (f.padRow rowStart least).cursor ≤ max f.cursor (rowStart + least) := by
  simp only [padRow]
  split
  · have hadvance := f.cursor_advance_le (least - (f.cursor - rowStart))
    omega
  · exact Nat.le_max_left ..

/-- The flow with what a strip draws at the cursor. -/
def draw (f : Flow) (s : Strip) : Flow :=
  { f with primitives := f.primitives ++ s.primitives.map (Primitive.lowered f.cursor) }

/-- The flow with a strip at the cursor, and the cursor moved past it. -/
def past (f : Flow) (s : Strip) : Flow := (f.draw s).advance s.height

/-- The flow with a strip at the cursor and the cursor below it, without a stop. -/
def laying (f : Flow) (s : Strip) : Flow := { f.draw s with cursor := f.cursor + s.height }

theorem past_of_lt {f : Flow} {s : Strip} (h : (f.past s).cursor < Binary.maxCount) :
    f.past s = f.laying s := advance_of_lt h

@[simp] theorem past_gap (f : Flow) (height : Nat) : f.past (.gap height) = f.advance height := by
  simp [past, draw, Strip.gap]

theorem cursor_past (f : Flow) (s : Strip) :
    (f.past s).cursor = min (f.cursor + s.height) Binary.maxCount := rfl

/-- Places a strip at the cursor and moves past it. -/
def addStrip (f : Flow) (s : Strip) : Except Failure Flow :=
  (f.put (s.primitives.map (Primitive.lowered f.cursor))).map (·.advance s.height)

/-- Places strips one below the other. -/
def addStrips : Flow → List Strip → Except Failure Flow
  | f, [] => .ok f
  | f, s :: rest => do
    let f ← f.addStrip s
    addStrips f rest

/-- What lies at the cursor or below it is placed. -/
theorem put_lowered (f : Flow) (s : Strip) :
    f.put (s.primitives.map (Primitive.lowered f.cursor)) = .ok (f.draw s) := by
  have hbelow : (s.primitives.map (Primitive.lowered f.cursor)).find? (·.top < f.cursor) =
      none := by
    refine List.find?_eq_none.2 fun p hp => ?_
    obtain ⟨q, -, rfl⟩ := List.mem_map.1 hp
    rw [Primitive.lowered_top, decide_eq_true_eq]
    omega
  simp [put, place, hbelow, Except.map, draw]

/-- **No strip is refused.** -/
theorem addStrip_eq (f : Flow) (s : Strip) : f.addStrip s = .ok (f.past s) := by
  rw [addStrip, put_lowered]
  rfl

theorem addStrips_eq_foldl (f : Flow) (strips : List Strip) :
    f.addStrips strips = .ok (strips.foldl past f) := by
  induction strips generalizing f with
  | nil => rfl
  | cons s rest ih =>
    rw [addStrips, addStrip_eq]
    exact ih _

theorem exists_addStrips (f : Flow) (strips : List Strip) : ∃ g, f.addStrips strips = .ok g :=
  ⟨_, f.addStrips_eq_foldl strips⟩

/-- What is kept however low a primitive is placed holds of all that strips add. -/
theorem forall_of_addStrips {P : Primitive → Prop}
    (hlowered : ∀ p offset, P p → P (p.lowered offset))
    {f g : Flow} {strips : List Strip} (h : f.addStrips strips = .ok g)
    (hf : ∀ p ∈ f.primitives, P p) (hstrips : ∀ s ∈ strips, ∀ p ∈ s.primitives, P p) :
    ∀ p ∈ g.primitives, P p := by
  induction strips generalizing f with
  | nil => rwa [← Except.ok.inj h]
  | cons s rest ih =>
    rw [addStrips, addStrip_eq] at h
    refine ih h (fun p hp => ?_) fun t ht => hstrips t (List.mem_cons_of_mem _ ht)
    rcases List.mem_append.1 hp with hp | hp
    · exact hf p hp
    · obtain ⟨q, hq, rfl⟩ := List.mem_map.1 hp
      exact hlowered q _ (hstrips s List.mem_cons_self q hq)

/-- Strips leave their stack on the flow. -/
theorem eq_of_addStrips {f g : Flow} {strips : List Strip} (h : f.addStrips strips = .ok g)
    (hrange : g.cursor < Binary.maxCount) :
    g = { f.draw (Strip.stack strips) with
      cursor := f.cursor + (Strip.stack strips).height } := by
  induction strips generalizing f with
  | nil =>
    rw [← Except.ok.inj h]
    simp [Strip.stack, Strip.gap, draw]
  | cons s rest ih =>
    rw [addStrips, addStrip_eq] at h
    have hrest := ih h
    have hfirst : (f.past s).cursor < Binary.maxCount := by
      rw [hrest] at hrange
      simp only at hrange
      omega
    rw [hrest, past_of_lt hfirst]
    simp [laying, draw, Strip.stack, Function.comp_def, Nat.add_assoc]

theorem laying_above (f : Flow) (s t : Strip) :
    f.laying (s.above t) = (f.laying s).laying t := by
  simp [laying, draw, Strip.above, Nat.add_assoc, Function.comp_def]

/-- The cursor moves by the height of the stack, or to its stop. -/
theorem cursor_of_addStrips {f g : Flow} {strips : List Strip} (h : f.addStrips strips = .ok g)
    (hf : f.cursor ≤ Binary.maxCount) :
    g.cursor = min (f.cursor + (Strip.stack strips).height) Binary.maxCount := by
  induction strips generalizing f with
  | nil =>
    rw [← Except.ok.inj h]
    exact (Nat.min_eq_left hf).symm
  | cons s rest ih =>
    rw [addStrips, addStrip_eq] at h
    have hcursor := f.cursor_past s
    have hrest := ih h (by omega)
    rw [hrest, hcursor, Strip.stack_cons_height]
    omega

/-- Strips are laid as their stack where the cursor does not come to its stop. -/
theorem addStrips_eq {f : Flow} {strips : List Strip}
    (hrange : f.cursor + (Strip.stack strips).height < Binary.maxCount) :
    f.addStrips strips = .ok (f.laying (Strip.stack strips)) := by
  obtain ⟨g, hg⟩ := f.exists_addStrips strips
  have hcursor := cursor_of_addStrips hg (by omega)
  have hlaid := eq_of_addStrips hg (by omega)
  rw [hg, hlaid]
  rfl

/-! ### Strips in slots -/

/-- The strips are placed one below the other from `f` on, each in its slot, and leave `g`. -/
inductive Filled : Flow → List Strip → List Slot → Flow → Prop
  | nil (f : Flow) : Filled f [] [] f
  | cons {f g : Flow} {s : Strip} {slot : Slot} {strips : List Strip} {slots : List Slot}
      (start_eq : slot.start = f.cursor)
      (finish_eq : slot.finish = f.cursor + s.height)
      (placed : f.addStrip s = .ok ⟨f.width, slot.finish, f.primitives ++ slot.primitives⟩)
      (later : Filled ⟨f.width, slot.finish, f.primitives ++ slot.primitives⟩ strips slots g) :
      Filled f (s :: strips) (slot :: slots) g

/-- Contained strips fill slots where the cursor does not come to its stop. -/
theorem exists_filled {f g : Flow} {strips : List Strip} (h : f.addStrips strips = .ok g)
    (hcontained : ∀ s ∈ strips, s.Contained) (hrange : g.cursor < Binary.maxCount) :
    ∃ slots, Filled f strips slots g := by
  induction strips generalizing f with
  | nil =>
    obtain rfl := Except.ok.inj h
    exact ⟨[], .nil f⟩
  | cons s rest ih =>
    rw [addStrips, addStrip_eq] at h
    have hrest : (f.past s).addStrips rest = .ok g := h
    have hfirst : (f.past s).cursor < Binary.maxCount := by
      rw [eq_of_addStrips hrest hrange] at hrange
      simp only at hrange
      omega
    have hplaced := f.addStrip_eq s
    rw [past_of_lt hfirst] at hrest hplaced
    obtain ⟨slots, hslots⟩ := ih hrest fun t ht => hcontained t (List.mem_cons_of_mem _ ht)
    exact ⟨s.slot (hcontained s List.mem_cons_self) f.cursor :: slots,
      .cons rfl rfl hplaced hslots⟩

namespace Filled

variable {f g : Flow} {strips : List Strip} {slots : List Slot}

theorem primitives_eq (h : Filled f strips slots g) :
    g.primitives = f.primitives ++ slots.flatMap Slot.primitives := by
  induction h with
  | nil f => simp
  | cons _ _ _ _ ih => simp [ih]

theorem cursor_le (h : Filled f strips slots g) : f.cursor ≤ g.cursor := by
  induction h with
  | nil f => exact Nat.le_refl _
  | cons _ hfinish _ _ ih =>
    simp only at ih
    omega

/-- The slots lie between the cursors. -/
theorem between (h : Filled f strips slots g) {slot : Slot} (hslot : slot ∈ slots) :
    f.cursor ≤ slot.start ∧ slot.finish ≤ g.cursor := by
  induction h with
  | nil f => simp at hslot
  | cons hstart hfinish _ hlater ih =>
    have hle := hlater.cursor_le
    simp only at ih hle
    rcases List.mem_cons.1 hslot with rfl | hslot
    · omega
    · have hrest := ih hslot
      omega

/-- Every slot ends where the next one starts or above. -/
theorem pairwise (h : Filled f strips slots g) :
    slots.Pairwise fun above below => above.finish ≤ below.start := by
  induction h with
  | nil f => exact .nil
  | cons _ _ _ hlater ih =>
    exact List.pairwise_cons.2 ⟨fun _ hbelow => (hlater.between hbelow).1, ih⟩

end Filled

/-! ### Finished drawings -/

/-- A primitive can be painted lower where the canvas still reaches it. -/
theorem paintFailure?_lowered (p : Primitive) (offset : Nat) :
    paintFailure? (p.lowered offset) = none ↔
      paintFailure? p = none ∧ p.top + offset ≤ maxOffset := by
  simp only [paintFailure?, Primitive.lowered_top, Primitive.lowered_content]
  by_cases hlow : maxOffset < p.top + offset
  · simp [hlow]
  · have htop : ¬ maxOffset < p.top := by omega
    simp [hlow, htop, Nat.le_of_not_lt hlow]

theorem finish_eq_ok_iff {f : Flow} {background : Color} {minHeight : Nat} {d : Drawing} :
    f.finish background minHeight = .ok d ↔
      (f.canvasSize minHeight).allocatable = true ∧
        (∀ p ∈ f.primitives, paintFailure? p = none) ∧
        d = ⟨f.canvasSize minHeight, background, f.primitives⟩ := by
  simp only [finish]
  cases hsize : (f.canvasSize minHeight).allocatable with
  | false => simp
  | true =>
    cases hfailure : f.primitives.findSome? paintFailure? with
    | some e =>
      obtain ⟨p, hp, hpe⟩ := List.exists_of_findSome?_eq_some hfailure
      simp only [if_true, reduceCtorEq, true_and, false_iff]
      rintro ⟨hpaint, -⟩
      rw [hpaint p hp] at hpe
      cases hpe
    | none =>
      simp only [if_true, true_and]
      constructor
      · intro h
        exact ⟨fun p hp => List.findSome?_eq_none_iff.1 hfailure p hp, (Except.ok.inj h).symm⟩
      · rintro ⟨-, rfl⟩
        rfl

/-- A finished drawing shows all that was placed. -/
theorem of_finish {f : Flow} {background : Color} {minHeight : Nat} {d : Drawing}
    (h : f.finish background minHeight = .ok d) :
    d = ⟨f.canvasSize minHeight, background, f.primitives⟩ := by
  simp only [finish] at h
  split at h
  · split at h
    · cases h
    · exact (Except.ok.inj h).symm
  · cases h

end Flow
end DialogueSheet
