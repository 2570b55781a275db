/-
# Layouts that follow strips

A layout reads the cursor of its flow, or the height of its column, again and again: every row
is placed at tops that are counted from it.  None of these tops depends on it in another way
(`Shifts`), so such a layout does wherever it starts what strips do that know nothing of where
they are placed (`Follows`).  Layouts one after the other follow the strips of the first and then
those of the second; a loop follows the strips of its steps.
-/
import DialogueSheet.Layout.Watermark
import DialogueSheet.Proofs.Layout.Measuring
import DialogueSheet.Proofs.Layout.Stacking

namespace DialogueSheet

/-! ### Rows -/

/-- A row is as much lower as the top at which it stands. -/
def Shifts (row : Nat → List Primitive) : Prop :=
  ∀ top, row top = (row 0).map (Primitive.lowered top)

namespace Shifts

variable {first second : Nat → List Primitive}

theorem append (hfirst : Shifts first) (hsecond : Shifts second) :
    Shifts fun top => first top ++ second top := by
  intro top
  dsimp only
  rw [hfirst top, hsecond top, ← List.map_append]

theorem cons {p : Nat → Primitive} (hp : ∀ top, p top = (p 0).lowered top)
    (hsecond : Shifts second) : Shifts fun top => p top :: second top := by
  intro top
  dsimp only
  rw [hp top, hsecond top, ← List.map_cons]

theorem flatMap {α : Type} {row : α → Nat → List Primitive} {l : List α}
    (h : ∀ a ∈ l, Shifts (row a)) : Shifts fun top => l.flatMap (row · top) := by
  intro top
  rw [List.map_flatMap]
  exact List.flatMap_congr fun a ha => h a ha top

/-- What stands a little below a top is lowered with it. -/
theorem below (h : Shifts first) (offset : Nat) : Shifts fun top => first (top + offset) := by
  intro top
  dsimp only
  rw [h (top + offset), h (0 + offset), List.map_map]
  simp [Function.comp_def]

theorem of_picture? (picture? : Option Picture) (left : Int) :
    Shifts fun top => picture?.toList.map (Primitive.ofPicture · left top) := by
  intro top
  simp

end Shifts

namespace Flow

/-- A row at the cursor is placed. -/
theorem put_row {row : Nat → List Primitive} (hrow : Shifts row) (f : Flow) (height : Nat) :
    f.put (row f.cursor) = .ok (f.draw ⟨row 0, height⟩) := by
  rw [hrow f.cursor]
  exact f.put_lowered ⟨row 0, height⟩

end Flow

namespace Strip

theorem above_assoc (a b c : Strip) : (a.above b).above c = a.above (b.above c) := by
  simp [above, Nat.add_assoc, Function.comp_def]

/-- Strips one after the other stand above each other as their stack does. -/
theorem foldl_above (s : Strip) (strips : List Strip) :
    strips.foldl above s = s.above (stack strips) := by
  induction strips generalizing s with
  | nil => simp [stack, gap, above]
  | cons t rest ih =>
    rw [List.foldl_cons, ih, above_assoc]
    rfl

/-- A row at the end of a column is a strip below it. -/
theorem grown_row {row : Nat → List Primitive} (hrow : Shifts row) (c : Strip) (height : Nat) :
    c.grown (row c.height) height = c.above ⟨row 0, height⟩ := by
  rw [grown, hrow c.height]
  rfl

end Strip

theorem mapM_map_eq {ε α β γ : Type} (f : α → Except ε β) (g : β → γ) (l : List α) :
    l.mapM (fun a => g <$> f a) = List.map g <$> l.mapM f := by
  induction l with
  | nil => rfl
  | cons a rest ih => simp [List.mapM_cons, ih]

/-! ### Layouts -/

/-- Wherever it starts, a layout does what strips do that it goes past one after the other. -/
def Follows {σ : Type} (past : σ → Strip → σ) (layout : σ → Except Failure σ)
    (strips : Except Failure (List Strip)) : Prop :=
  ∀ a, layout a = List.foldl past a <$> strips

namespace Follows

variable {σ β : Type} {past : σ → Strip → σ}

theorem skip : Follows past .ok (.ok []) := fun _ => rfl

/-- A layout of a single strip. -/
theorem of_strip {layout : σ → Except Failure σ} {strip : Except Failure Strip}
    (h : ∀ a, layout a = past a <$> strip) :
    Follows past layout (strip >>= fun s => pure [s]) := by
  intro a
  rw [h]
  cases strip <;> rfl

/-- Layouts one after the other go past the strips of both. -/
theorem andThen {first second : σ → Except Failure σ} {upper lower : Except Failure (List Strip)}
    (hfirst : Follows past first upper) (hsecond : Follows past second lower) :
    Follows past (fun a => first a >>= second)
      (upper >>= fun above => lower >>= fun below => pure (above ++ below)) := by
  intro a
  simp only [hfirst a, hsecond _, map_bind, bind_map_left, map_pure, List.foldl_append]
  rfl

/-- A loop goes past the strips of its steps. -/
theorem foldlM {step : σ → β → Except Failure σ} {strip : β → Except Failure Strip} {l : List β}
    (h : ∀ b ∈ l, ∀ a, step a b = past a <$> strip b) :
    Follows past (l.foldlM step) (l.mapM strip) := by
  intro a
  induction l generalizing a with
  | nil => rfl
  | cons b rest ih =>
    obtain ⟨hb, hrest⟩ := List.forall_mem_cons.1 h
    simp only [List.foldlM_cons, List.mapM_cons, hb a, map_bind, bind_map_left, map_pure,
      ih hrest, List.foldl_cons]
    rfl

end Follows

/-- Strips that a layout follows on a flow are added to it. -/
theorem Follows.eq_addStrips {layout : Flow → Except Failure Flow}
    {strips : Except Failure (List Strip)} (h : Follows Flow.past layout strips) (f : Flow) :
    layout f = strips >>= f.addStrips := by
  rw [h f]
  cases strips with
  | error e => rfl
  | ok strips => exact (f.addStrips_eq_foldl strips).symm

/-- A layout is stopped by what stops its strips. -/
theorem StopsAt.of_follows {σ : Type} {past : σ → Strip → σ} {measure : TextMeasure}
    {layout : σ → Except Failure σ} {strips : Except Failure (List Strip)}
    (h : Follows past layout strips) (hstrips : StopsAt measure strips) (a : σ) :
    StopsAt measure (layout a) := by
  rw [h a]
  exact hstrips.bind fun _ => StopsAt.ok _

/-! ### Watermarks -/

namespace Resources

/-- The strip of a watermark on a sheet of a width. -/
def watermark (r : Resources) (width : Nat) (mark : String) : Except Failure Strip := do
  let t ← r.setText
    ((TextRequest.plain mark 20 mutedText).withWidth (width - 48)).inHeading.centered
  return ⟨[.ofText t (centeredOffset width t.size.width) 0], t.size.height + 12⟩

/-- The strips of a watermark: one, or none. -/
def watermarkStrips (r : Resources) (width : Nat) (watermark : Option String) :
    Except Failure (List Strip) :=
  (watermarkText? watermark).toList.mapM (r.watermark width)

theorem placeWatermark_follows (r : Resources) (width : Nat) (watermark : Option String) :
    Follows Flow.past (r.placeWatermark width watermark) (r.watermarkStrips width watermark) := by
  unfold placeWatermark watermarkStrips
  cases watermarkText? watermark with
  | none => exact Follows.skip
  | some mark =>
    have hrow : ∀ t : SetText,
        Shifts fun top => [.ofText t (centeredOffset width t.size.width) top] := by
      intro t top
      simp
    intro f
    rw [Option.toList_some, List.mapM_cons, List.mapM_nil]
    simp only [Resources.watermark, map_bind, bind_assoc, pure_bind, map_pure]
    refine bind_congr fun t => ?_
    rw [f.put_row (hrow t) (t.size.height + 12)]
    rfl

theorem stopsAt_watermarkStrips (r : Resources) (width : Nat) (watermark : Option String) :
    StopsAt r.measure (r.watermarkStrips width watermark) :=
  StopsAt.mapM fun _ _ => (StopsAt.setText r _).bind fun _ => StopsAt.ok _

theorem of_mem_watermarkStrips {r : Resources} {width : Nat} {watermark : Option String}
    {strips : List Strip} (h : r.watermarkStrips width watermark = .ok strips) {strip : Strip}
    (hstrip : strip ∈ strips) :
    ∃ mark t, r.setText ((TextRequest.plain mark 20 mutedText).withWidth
        (width - 48)).inHeading.centered = .ok t ∧
      strip = ⟨[.ofText t (centeredOffset width t.size.width) 0], t.size.height + 12⟩ := by
  obtain ⟨mark, -, hmark⟩ := exists_of_mem_mapM h hstrip
  obtain ⟨t, ht, hstrip⟩ := bind_eq_ok_iff.1 hmark
  exact ⟨mark, t, ht, (Except.ok.inj hstrip).symm⟩

end Resources
end DialogueSheet
