/-
# What a canvas shows of opaque boxes

A pixel map of one opaque color and an opaque rectangle without a stroke hide their whole box
(`Content.Hides`).  Painted in turn, the last of them that covers a place is seen there, and the
background where there is none (`finish_seen`); what lies past the canvas is cut off.

A rectangle is drawn from its markup, so there must be a pixel map of its size, and its sides
must not come out shorter as 32-bit numbers (`Content.Whole`).  Where they do, the canvas is not
finished, or the end of the box stays bare (`wide_rect_unseen`).
-/
import DialogueSheet.Proofs.Layout.Rendered
import DialogueSheet.Proofs.Layout.Running

namespace DialogueSheet

/-- What hides a box of its own size under one opaque color. -/
inductive Content.Hides : Content → Color → Prop
  | pixels (size : Size) {c : Color} (h : c.alpha = 255) :
    Hides (.pixels (.filled size ⟨c.red, c.green, c.blue, 255⟩)) c
  | rect {width height : Nat} {c : Color} (hwidth : 1 ≤ width) (hheight : 1 ≤ height)
    (h : c.alpha = 255) : Hides (.shape (.rect width height c)) c

/-- A shape has a pixel map, and its sides are not written shorter than they are. -/
def Content.Whole : Content → Prop
  | .shape s => s.drawnSize.allocatable = true ∧
    s.size.width ≤ s.boxWidth.toCount ∧ s.size.height ≤ s.boxHeight.toCount
  | _ => True

/-- The rectangle of a content is drawn, if it is one. -/
def Renderer.Draws (R : Renderer) (content : Content) : Prop :=
  ∀ width height c, content = .shape (.rect width height c) → R.DrawsRect width height c

/-- A place lies in the box of a primitive. -/
def Primitive.Covers (p : Primitive) (x y : Nat) : Prop :=
  p.left ≤ x ∧ (x : Int) < p.left + p.content.size.width ∧ p.top ≤ y ∧ y < p.bottom

instance (p : Primitive) (x y : Nat) : Decidable (p.Covers x y) :=
  inferInstanceAs (Decidable (_ ∧ _ ∧ _ ∧ _))

/-- The color that is seen at a place when primitives are painted in turn on a background. -/
inductive Seen (primitives : List Primitive) (background : Color) (x y : Nat) : Color → Prop
  | last {upper lower : List Primitive} {p : Primitive} {c : Color}
    (placed : primitives = upper ++ p :: lower) (hides : p.content.Hides c)
    (covers : p.Covers x y) (later : ∀ q ∈ lower, ¬ q.Covers x y) :
    Seen primitives background x y c
  | bare (none_covers : ∀ p ∈ primitives, ¬ p.Covers x y) :
    Seen primitives background x y background

/-- A primitive that does not cover a place changes nothing there. -/
theorem Seen.append {primitives : List Primitive} {background c : Color} {x y : Nat}
    (h : Seen primitives background x y c) {p : Primitive} (hp : ¬ p.Covers x y) :
    Seen (primitives ++ [p]) background x y c := by
  cases h with
  | @last upper lower q c placed hides covers later =>
    have hplaced : primitives ++ [p] = upper ++ q :: (lower ++ [p]) := by simp [placed]
    refine .last hplaced hides covers fun r hr => ?_
    rcases List.mem_append.1 hr with hr | hr
    · exact later r hr
    · rwa [List.mem_singleton.1 hr]
  | bare none_covers =>
    refine .bare fun q hq => ?_
    rcases List.mem_append.1 hq with hq | hq
    · exact none_covers q hq
    · rwa [List.mem_singleton.1 hq]

/-! ### Boxes -/

theorem Binary.toCount_le_maxCount {f : BinaryFormat} (x : Binary f) : x.toCount ≤ maxCount := by
  cases x with
  | nan => exact Nat.zero_le _
  | infinite s =>
    cases s with
    | true => exact Nat.zero_le _
    | false => exact Nat.le_refl _
  | finite s m e =>
    simp only [toCount, toInt]
    omega

namespace Renderer

open Pixmap

variable {R : Renderer}

/-- The pixel map of what hides its box is of one color, the size of the box. -/
theorem exists_pixmap {content : Content} {c : Color} (hdraws : R.Draws content)
    (hhides : content.Hides c) (hwhole : content.Whole) :
    ∃ source, R.pixmap content = .ok source ∧ source.size = content.size ∧
      ∀ x y, x < content.size.width → y < content.size.height →
        source.pixel? x y = some ⟨c.red, c.green, c.blue, 255⟩ := by
  cases hhides with
  | pixels size h => exact ⟨_, rfl, rfl, fun x y hx hy => pixel?_filled size _ hx hy⟩
  | @rect width height c hwidth hheight h =>
    obtain ⟨hsize, hwidthDrawn, hheightDrawn⟩ := hwhole
    rw [drawnSize_rect hwidth hheight] at hsize
    simp only [Shape.boxWidth, drawnSize_rect hwidth hheight] at hwidthDrawn
    simp only [Shape.boxHeight, drawnSize_rect hwidth hheight] at hheightDrawn
    obtain ⟨source, hsource, hdrawn⟩ := rasterize_rect (hdraws _ _ _ rfl) hwidth hheight
      (hheightDrawn.trans (Binary.toCount_le_maxCount _)) hsize
    refine ⟨source, hsource, hdrawn.size_eq, fun x y hx hy => ?_⟩
    rw [hdrawn.inside x y ⟨Nat.lt_of_lt_of_le hx hwidthDrawn, Nat.lt_of_lt_of_le hy hheightDrawn⟩,
      blank, pixel?_filled ⟨width, height⟩ _ hx hy, Option.map_some]

/-- What hides its box is painted as a box of its color. -/
theorem exists_paintOn (hover : R.LaysOver) {p : Primitive} {c : Color}
    (htop : p.top ≤ Flow.maxOffset) (hdraws : R.Draws p.content) (hhides : p.content.Hides c)
    (hwhole : p.content.Whole) (canvas : Pixmap) :
    ∃ q, R.paintOn canvas p = .ok q ∧
      canvas.Repaints q p.Covers fun _ => ⟨c.red, c.green, c.blue, 255⟩ := by
  obtain ⟨source, hsource, hsize, hpixels⟩ := exists_pixmap hdraws hhides hwhole
  refine ⟨R.overlay canvas source p.left p.top, ?_, hover.size_eq .., fun x y hcovers => ?_,
    fun x y hcovers => hover.shown _ _ _ _ x y fun pixel hpixel => ?_⟩
  · rw [paintOn, if_neg (Nat.not_lt.2 htop), hsource]
    rfl
  · obtain ⟨hleft, hright, htop, hbottom⟩ := hcovers
    rw [Primitive.bottom] at hbottom
    refine hover.hidden _ _ _ _ x y _ ?_ rfl
    rw [at?, if_pos ⟨hleft, htop⟩]
    exact hpixels _ _ (by omega) (by omega)
  · rw [at?] at hpixel
    split at hpixel
    · have hin := isSome_pixel?_iff.1 (Option.isSome_of_mem hpixel)
      rw [hsize] at hin
      refine absurd ?_ hcovers
      rw [Primitive.Covers, Primitive.bottom]
      omega
    · cases hpixel

/-- **Boxes painted in turn** show at every place the last of them that covers it, and the
background where none does. -/
theorem exists_foldlM_paintOn (hover : R.LaysOver) {background : Color}
    (hbackground : background.alpha = 255) (size : Size) {primitives : List Primitive}
    (h : ∀ p ∈ primitives, p.top ≤ Flow.maxOffset ∧ R.Draws p.content ∧ p.content.Whole ∧
      ∃ c, p.content.Hides c) :
    ∃ canvas, primitives.foldlM R.paintOn (.filled size background.filling) = .ok canvas ∧
      canvas.size = size ∧ ∀ x y, x < size.width → y < size.height →
        ∃ c, Seen primitives background x y c ∧
          canvas.pixel? x y = some ⟨c.red, c.green, c.blue, 255⟩ := by
  induction primitives using List.reverseRecOn with
  | nil =>
    refine ⟨_, rfl, rfl, fun x y hx hy => ⟨background, .bare (by simp), ?_⟩⟩
    rw [pixel?_filled _ _ hx hy, Color.filling_eq hbackground]
  | append_singleton rest p ih =>
    obtain ⟨canvas, hcanvas, hsize, hseen⟩ := ih fun q hq => h q (List.mem_append_left _ hq)
    obtain ⟨htop, hdraws, hwhole, c, hhides⟩ := h p (by simp)
    obtain ⟨q, hq, hpainted⟩ := exists_paintOn hover htop hdraws hhides hwhole canvas
    refine ⟨q, ?_, hpainted.size_eq.trans hsize, fun x y hx hy => ?_⟩
    · rw [List.foldlM_append, hcanvas]
      exact (bind_pure _).trans hq
    · obtain ⟨below, hbelow, hpixel⟩ := hseen x y hx hy
      by_cases hcovers : p.Covers x y
      · exact ⟨c, .last (rfl : rest ++ [p] = rest ++ p :: []) hhides hcovers (by simp), by
          rw [hpainted.inside x y hcovers, hpixel, Option.map_some]⟩
      · exact ⟨below, hbelow.append hcovers, by rw [hpainted.outside x y hcovers, hpixel]⟩

end Renderer

/-! ### The last cover -/

namespace Flow

theorem width_run (f : Flow) (calls : List Call) : (f.run calls).width = f.width := by
  induction calls generalizing f with
  | nil => rfl
  | cons c rest ih =>
    rw [run_cons, ih]
    cases c with
    | advance height => rfl
    | padRow rowStart least =>
      change (f.padRow rowStart least).width = f.width
      rw [padRow]
      split <;> rfl
    | place batch =>
      rcases f.below_or_above batch with h | h
      · rw [after_of_below h]
      · rw [after_of_above h]

/-- What a run records was handed to it. -/
theorem exists_place_of_mem_run {width offset : Nat} {calls : List Call} {p : Primitive}
    (hp : p ∈ ((start width offset).run calls).primitives) :
    ∃ batch, .place batch ∈ calls ∧ p ∈ batch := by
  rw [primitives_run] at hp
  change p ∈ [] ++ _ at hp
  obtain ⟨⟨g, c⟩, hmet, hadded⟩ := List.mem_flatMap.1 hp
  obtain ⟨earlier, later, rfl, -⟩ := mem_met_iff.1 hmet
  cases c with
  | advance height => simp [added] at hadded
  | padRow rowStart least => simp [added] at hadded
  | place batch =>
    refine ⟨batch, by simp, ?_⟩
    simp only [added] at hadded
    split at hadded
    · exact hadded
    · simp at hadded

/-- **The last cover is seen.**  A run that places opaque boxes is painted on a canvas down to its
cursor, at least as high as asked for; at every place it shows the last box that was recorded
there. -/
theorem finish_seen (R : Renderer) (hover : R.LaysOver) (width offset : Nat) (calls : List Call)
    (background : Color) (minHeight : Nat) (hbackground : background.alpha = 255)
    (hcanvas : (((start width offset).run calls).canvasSize minHeight).allocatable = true)
    (hplaced : ∀ batch, .place batch ∈ calls → ∀ p ∈ batch,
      p.top ≤ maxOffset ∧ R.Draws p.content ∧ p.content.Whole ∧ ∃ c, p.content.Hides c) :
    ∃ canvas, ((start width offset).run calls).paint R background minHeight = .ok canvas ∧
      canvas.size = ⟨width, max (max ((start width offset).run calls).cursor minHeight) 1⟩ ∧
      ∀ x y, x < canvas.size.width → y < canvas.size.height →
        ∃ c, Seen ((start width offset).run calls).primitives background x y c ∧
          canvas.pixel? x y = some ⟨c.red, c.green, c.blue, 255⟩ := by
  have hrecorded : ∀ p ∈ ((start width offset).run calls).primitives,
      p.top ≤ maxOffset ∧ R.Draws p.content ∧ p.content.Whole ∧ ∃ c, p.content.Hides c := by
    intro p hp
    obtain ⟨batch, hbatch, hp⟩ := exists_place_of_mem_run hp
    exact hplaced batch hbatch p hp
  obtain ⟨canvas, hpaint, hsize, hseen⟩ := Renderer.exists_foldlM_paintOn hover hbackground
    (((start width offset).run calls).canvasSize minHeight) hrecorded
  have hwidth : ((start width offset).run calls).width = width := width_run ..
  refine ⟨canvas, (if_pos hcanvas).trans hpaint, ?_, ?_⟩
  · rw [hsize, canvasSize, hwidth]
  · rw [hsize]
    exact hseen

/-- A box that reaches past the right side, one that reaches past the lower end, and one that is
refused because it starts above the cursor. -/
theorem finish_seen_of_three :
    let square : Shape := .rect 4 4 (Color.opaqueOf 255 0 0)
    let bar : Shape := .rect 2 9 Color.black
    let R : Renderer := .ofShapes [square, bar]
    let red : Primitive := .ofShape square 0 1
    let blue : Primitive := ⟨.pixels (.filled ⟨2, 2⟩ ⟨0, 0, 255, 255⟩), 3, 2⟩
    let tall : Primitive := .ofShape bar 1 5
    let calls : List Call := [.place [red, blue], .advance 4, .place [red], .place [tall]]
    R.LaysOver ∧ Color.white.alpha = 255 ∧
      (((start 4 1).run calls).canvasSize 7).allocatable = true ∧
      (∀ batch, .place batch ∈ calls → ∀ p ∈ batch,
        p.top ≤ maxOffset ∧ R.Draws p.content ∧ p.content.Whole ∧ ∃ c, p.content.Hides c) ∧
      ∃ canvas, ((start 4 1).run calls).paint R Color.white 7 = .ok canvas ∧
        canvas.size = ⟨4, 7⟩ ∧ ∀ x y, x < canvas.size.width → y < canvas.size.height →
          ∃ c, Seen [red, blue, tall] Color.white x y c ∧
            canvas.pixel? x y = some ⟨c.red, c.green, c.blue, 255⟩ := by
  intro square bar R red blue tall calls
  have hover : R.LaysOver := Renderer.laysOver_ofShapes _
  have hdraws : ∀ {width height : Nat} {c : Color}, [square, bar].find? (·.markup =
      (Shape.rect width height c).markup) = some (.rect width height c) → 1 ≤ width → 1 ≤ height →
        c.alpha = 255 → R.Draws (.shape (.rect width height c)) := by
    rintro width height c hfind hwidth hheight hc _ _ _ h
    cases h
    exact Renderer.drawsRect_ofShapes hfind hwidth hheight hc
  have hplaced : ∀ batch, .place batch ∈ calls → ∀ p ∈ batch,
      p.top ≤ maxOffset ∧ R.Draws p.content ∧ p.content.Whole ∧ ∃ c, p.content.Hides c := by
    have hred : red.top ≤ maxOffset ∧ R.Draws red.content ∧ red.content.Whole ∧
        ∃ c, red.content.Hides c :=
      ⟨by decide, hdraws (by decide +kernel) (by decide) (by decide) rfl,
        ⟨by decide, by decide +kernel⟩, _, .rect (by decide) (by decide) rfl⟩
    have hblue : blue.top ≤ maxOffset ∧ R.Draws blue.content ∧ blue.content.Whole ∧
        ∃ c, blue.content.Hides c :=
      ⟨by decide, fun _ _ _ h => (by cases h), trivial, _,
        .pixels (c := Color.opaqueOf 0 0 255) ⟨2, 2⟩ rfl⟩
    have htall : tall.top ≤ maxOffset ∧ R.Draws tall.content ∧ tall.content.Whole ∧
        ∃ c, tall.content.Hides c :=
      ⟨by decide, hdraws (by decide +kernel) (by decide) (by decide) rfl,
        ⟨by decide, by decide +kernel⟩, _, .rect (by decide) (by decide) rfl⟩
    intro batch hbatch
    simp only [calls, List.mem_cons, Call.place.injEq, reduceCtorEq, false_or, List.not_mem_nil,
      or_false] at hbatch
    rcases hbatch with rfl | rfl | rfl <;> simp only [List.forall_mem_cons, List.not_mem_nil,
      false_imp_iff, implies_true, and_true]
    · exact ⟨hred, hblue⟩
    · exact hred
    · exact htall
  exact ⟨hover, rfl, rfl, hplaced, finish_seen R hover 4 1 calls Color.white 7 rfl rfl hplaced⟩

/-- A shape alone at the top of a canvas of one row. -/
theorem paint_single (R : Renderer) {width : Nat} (hsize : (Size.mk width 1).allocatable = true)
    (s : Shape) (background : Color) :
    ((start width 0).run [.place [.ofShape s 0 0]]).paint R background 0 =
      R.paintOn (.filled ⟨width, 1⟩ background.filling) (.ofShape s 0 0) := by
  have hrun : (start width 0).run [.place [.ofShape s 0 0]] = ⟨width, 0, [.ofShape s 0 0]⟩ := rfl
  rw [hrun]
  exact (if_pos hsize).trans (bind_pure _)

/-- A rectangle without a pixel map stops the canvas, and the last column of a rectangle stays bare
when its width is written shorter: by every renderer that reads the markup, and draws it. -/
theorem wide_rect_unseen :
    let wide : Primitive := .ofShape (.rect 600000000 1 Color.black) 0 0
    let long : Primitive := .ofShape (.rect 16777217 1 Color.black) 0 0
    (wide.content.Hides Color.black ∧
      (((start 4 0).run [.place [wide]]).canvasSize 0).allocatable = true ∧
      ∀ R : Renderer, (R.parse? (Shape.rect 600000000 1 Color.black).markup).isSome = true →
        ((start 4 0).run [.place [wide]]).paint R Color.white 0 =
          .error (.allocation ⟨600000000, 1⟩)) ∧
    long.content.Hides Color.black ∧ long.Covers 16777216 0 ∧
      ∀ R : Renderer, R.LaysOver → R.DrawsRect 16777217 1 Color.black →
        ∃ canvas, ((start 16777217 0).run [.place [long]]).paint R Color.white 0 = .ok canvas ∧
          canvas.size = ⟨16777217, 1⟩ ∧
          canvas.pixel? 16777216 0 = some ⟨255, 255, 255, 255⟩ := by
  intro wide long
  refine ⟨⟨.rect (by decide) (by decide) rfl, rfl, fun R hread => ?_⟩,
    .rect (by decide) (by decide) rfl, by decide, fun R hover hdraws => ?_⟩
  · have hfailed : R.rasterize (.rect 600000000 1 Color.black) =
        .error (.allocation ⟨600000000, 1⟩) :=
      ((Renderer.render_cases hread ⟨600000000, 1⟩).resolve_left
        fun h => absurd h.1 (by decide)).2
    rw [paint_single R (by decide), Renderer.paintOn, if_neg (by decide)]
    exact congrArg (Except.map _) hfailed
  · obtain ⟨source, hsource, hdrawn⟩ := Renderer.rasterize_rect hdraws (by decide) (by decide)
      (by decide) (by decide)
    have hcount : (Binary.ofNat 16777217 : Binary32).toCount = 16777216 := by decide +kernel
    refine ⟨R.overlay (.filled ⟨16777217, 1⟩ Color.white.filling) source 0 0, ?_,
      hover.size_eq .., ?_⟩
    · rw [paint_single R (by decide), Renderer.paintOn, if_neg (by decide)]
      exact congrArg (Except.map _) hsource
    · -- the last column of the source is clear
      have hin : 16777216 < (Size.mk 16777217 1).width := Nat.lt_succ_self 16777216
      rw [hover.shown _ _ _ _ _ _ fun pixel hpixel => ?_,
        Pixmap.pixel?_filled _ _ hin Nat.one_pos, Color.filling_eq rfl]
      · rfl
      · rw [Pixmap.at?, if_pos (by omega)] at hpixel
        have hbare := hdrawn.outside 16777216 0 (by rw [hcount]; omega)
        rw [Pixmap.blank, Pixmap.pixel?_filled _ _ hin Nat.one_pos] at hbare
        exact (Option.some.inj (hbare.symm.trans hpixel)).symm

end Flow
end DialogueSheet
