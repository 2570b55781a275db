/-
# What a renderer shows of a rectangle

A box of whole pixels is drawn at its own scale and not moved (`Renderer.render_own_size`): a
number of the format divided by itself is 1, and nothing is left of it when it is taken away.

What is asked of a renderer is named: that opaque pixels hide what lies below and clear ones show
it (`Renderer.LaysOver`), and that the markup of a filled rectangle is drawn as its sides are
written (`Renderer.DrawsRect`).  The renderer for rectangles does both.
-/
import DialogueSheet.Layout.Canvas
import DialogueSheet.Proofs.Layout.Stacking
import DialogueSheet.Proofs.Number.Nearest
import DialogueSheet.Proofs.Raster.Painting

namespace DialogueSheet

/-! ### A number against itself -/

theorem roundHalfEven_mul {m : Nat} (hm : 0 < m) (num den : Nat) :
    roundHalfEven (m * num) (m * den) = roundHalfEven num den := by
  have hleft : 2 * (m * (num % den)) < m * den ↔ 2 * (num % den) < den := by
    rw [Nat.mul_left_comm]
    exact Nat.mul_lt_mul_left hm
  have hright : m * den < 2 * (m * (num % den)) ↔ den < 2 * (num % den) := by
    rw [Nat.mul_left_comm]
    exact Nat.mul_lt_mul_left hm
  simp only [roundHalfEven, Nat.mul_div_mul_left _ _ hm, Nat.mul_mod_mul_left, hleft, hright]

namespace Binary

open BinaryFormat

variable {f : BinaryFormat}

theorem scaleDown_self (m : Nat) (e : Int) :
    scaleDown m m e = (m * (scaleDown 1 1 e).1, m * (scaleDown 1 1 e).2) := by
  simp only [scaleDown, Nat.shiftLeft_eq, Nat.one_mul]

theorem exponentOf_self {m : Nat} (hm : 0 < m) : exponentOf f m m = exponentOf f 1 1 := by
  simp only [exponentOf, scaleDown_self m, Nat.mul_div_mul_left _ _ hm, Int.sub_self]

/-- A quotient of equal numbers is 1. -/
theorem ofRatio_self {m : Nat} (hm : 0 < m) : (ofRatio false m m : Binary f) = 1 := by
  have hone : (1 : Binary f) = ofRatio false 1 1 := rfl
  rw [hone, ofRatio_eq_pack hm, ofRatio_eq_pack Nat.one_pos, significandOf, significandOf,
    exponentOf_self hm, scaleDown_self m]
  simp only [roundHalfEven_mul hm]

variable {x y : Binary f}

theorem div_self (hx : x.IsNumber) (hpos : 0 < x.value) : x / x = 1 := by
  cases x with
  | nan => exact hx.elim
  | infinite s => exact hx.elim
  | finite s m e =>
    have hm : m ≠ 0 := by
      rintro rfl
      simp [value, signed, dyadic] at hpos
    change Binary.div _ _ = _
    simp only [Binary.div, if_neg hm, bne_self_eq_false, sub_self, Int.toNat_zero,
      Nat.shiftLeft_zero]
    exact ofRatio_self (Nat.pos_of_ne_zero hm)

/-- Nothing is left of a number when one of its value is taken away. -/
theorem sub_eq_zero_of_value_eq (hx : x.IsNumber) (hy : y.IsNumber) (hpos : 0 < x.value)
    (h : x.value = y.value) : x - y = 0 := by
  cases x with
  | nan => exact hx.elim
  | infinite s => exact hx.elim
  | finite s m e =>
    cases y with
    | nan => exact hy.elim
    | infinite t => exact hy.elim
    | finite t n k =>
      obtain rfl : s = false := by
        cases s with
        | false => rfl
        | true =>
          have hnonneg := dyadic_nonneg m e
          simp only [value, signed, if_pos] at hpos
          linarith
      have hsum : units false m e (min e k) + units (!t) n k (min e k) = 0 := by
        have hunit : (2 : ℚ) ^ min e k ≠ 0 := by positivity
        have hzero : ((units false m e (min e k) + units (!t) n k (min e k) : Int) : ℚ) *
            2 ^ min e k = 0 := by
          rw [Int.cast_add, add_mul, units_eq false m (min_le_left e k),
            units_eq (!t) n (min_le_right e k), ← signed, ← signed, signed_not, ← sub_eq_add_neg]
          exact sub_eq_zero.2 h
        exact_mod_cast (mul_eq_zero.1 hzero).resolve_right hunit
      change Binary.add (.finite false m e) (.finite (!t) n k) = zero false
      exact if_pos hsum

theorem greater_eq_left (hx : x.IsNumber) (hy : y.IsNumber) (h : y.value < x.value) :
    greater x y = x := by
  cases x with
  | nan => exact hx.elim
  | infinite s => exact hx.elim
  | finite s m e =>
    cases y with
    | nan => exact hy.elim
    | infinite t => exact hy.elim
    | finite t n k => exact if_pos (below_finite_iff.2 h)

/-- A side of at least one pixel is a number of at least 1. -/
theorem side_spec {n : Nat} (hpos : 1 ≤ n) (hn : n ≤ maxCount) :
    (ofNat n : Binary32).IsNumber ∧ 1 ≤ (ofNat n : Binary32).value := by
  have hone : BinaryFormat.single.Holds 1 := by
    have hheld := holds_two_zpow (f := .single) (k := 0) (by decide) (by decide) (by decide)
    rwa [zpow_zero] at hheld
  have hbound : BinaryFormat.single.Holds (2 ^ (32 : Int)) :=
    holds_two_zpow (by decide) (by decide) (by decide)
  have hle : (n : ℚ) ≤ 2 ^ (32 : Int) :=
    calc (n : ℚ) ≤ 4294967295 := by exact_mod_cast hn
      _ ≤ 2 ^ (32 : Int) := by norm_num
  have hrounds := rounds_ofNat hbound hle
  exact ⟨hrounds.isNumber, hrounds.le_of_ge hone (by exact_mod_cast hpos)⟩

theorem leastSide_spec : leastSide.IsNumber ∧ leastSide.value < 1 := by
  have hleast : leastSide = .finite false 8388608 (-46) := by decide +kernel
  rw [hleast]
  refine ⟨⟨by decide, by decide, by decide, by decide⟩, ?_⟩
  norm_num [value, signed, dyadic]

/-- A side fits into itself at its own scale. -/
theorem side_div_self {n : Nat} (hpos : 1 ≤ n) (hn : n ≤ maxCount) :
    (ofNat n : Binary32) / greater (ofNat n) leastSide = 1 := by
  obtain ⟨hnumber, hone⟩ := side_spec hpos hn
  rw [greater_eq_left hnumber leastSide_spec.1 (leastSide_spec.2.trans_le hone)]
  exact div_self hnumber (by linarith)

/-- Beside a side at its own scale there is no room. -/
theorem side_sub_self {n : Nat} (hpos : 1 ≤ n) (hn : n ≤ maxCount) :
    ((ofNat n : Binary32) - ofNat n * 1) / 2 = 0 := by
  obtain ⟨hnumber, hone⟩ := side_spec hpos hn
  have hunit : (1 : Binary32).IsNumber ∧ (1 : Binary32).value = 1 := by
    have hrounds := rounds_ofNat (f := .single) (n := 1)
      (holds_two_zpow (k := 0) (by decide) (by decide) (by decide)) (by norm_num)
    refine ⟨hrounds.isNumber, ?_⟩
    have hvalue := hrounds.value_eq (by
      have hheld := holds_two_zpow (f := .single) (k := 0) (by decide) (by decide) (by decide)
      rwa [zpow_zero, ← Nat.cast_one] at hheld)
    rwa [Nat.cast_one] at hvalue
  have hmul := Rounds.mul hnumber hunit.1 hnumber.holds.abs (by rw [hunit.2, mul_one])
  rw [hunit.2, mul_one] at hmul
  have hzero : (ofNat n : Binary32) - ofNat n * 1 = 0 :=
    sub_eq_zero_of_value_eq hnumber hmul.isNumber (by linarith) (hmul.value_eq hnumber.holds).symm
  rw [hzero]
  decide +kernel

end Binary

/-! ### Laying one pixel map on another -/

/-- What a pixel map that lies at an offset has at a place. -/
def Pixmap.at? (source : Pixmap) (left : Int) (top x y : Nat) : Option Pixel :=
  if left ≤ x ∧ top ≤ y then source.pixel? (x - left).toNat (y - top) else none

/-- An opaque pixel hides what lies below it; a clear one shows it, and so does the end of the
source. -/
structure Renderer.LaysOver (R : Renderer) : Prop where
  size_eq : ∀ canvas source left top, (R.overlay canvas source left top).size = canvas.size
  hidden : ∀ canvas source left top x y pixel, source.at? left top x y = some pixel →
    pixel.alpha = 255 →
      (R.overlay canvas source left top).pixel? x y = (canvas.pixel? x y).map fun _ => pixel
  shown : ∀ canvas source left top x y,
    (∀ pixel ∈ source.at? left top x y, pixel = Pixel.clear) →
      (R.overlay canvas source left top).pixel? x y = canvas.pixel? x y

/-- The markup of a filled rectangle is read with its sides, and at its own scale it fills the
whole pixels that its sides, written as 32-bit numbers, reach to. -/
def Renderer.DrawsRect (R : Renderer) (width height : Nat) (c : Color) : Prop :=
  let s := Shape.rect width height c
  ∃ tree, R.parse? s.markup = some tree ∧ R.size tree = (s.boxWidth, s.boxHeight) ∧
    (Pixmap.blank s.drawnSize).Repaints (R.draw tree 1 0 0 (.blank s.drawnSize))
      (fun x y => x < s.boxWidth.toCount ∧ y < s.boxHeight.toCount)
      fun _ => ⟨c.red, c.green, c.blue, 255⟩

namespace Renderer

variable {R : Renderer} {width height : Nat} {c : Color}

/-- Markup with the sides of the box is drawn at its own scale and not moved. -/
theorem render_own_size {markup : String} {tree : R.Tree} (hparse : R.parse? markup = some tree)
    (hsides : R.size tree = (Binary.ofNat width, Binary.ofNat height)) (hwidth : 1 ≤ width)
    (hheight : 1 ≤ height) (hmax : height ≤ Binary.maxCount)
    (hsize : (Size.mk width height).allocatable = true) :
    R.render markup ⟨width, height⟩ = .ok (R.draw tree 1 0 0 (.blank ⟨width, height⟩)) := by
  have hwidthMax : width ≤ Binary.maxCount := by
    have hrow : width * 4 ≤ 2147483647 := of_decide_eq_true (Bool.and_eq_true_iff.1 hsize).2
    simp only [Binary.maxCount]
    omega
  have hscale : Binary.lesser (1 : Binary32) 1 = 1 := by decide +kernel
  simp only [render, hparse, hsides, Nat.max_eq_left hwidth, Nat.max_eq_left hheight,
    Pixmap.blank?, hsize, if_pos, Binary.side_div_self hwidth hwidthMax,
    Binary.side_div_self hheight hmax, hscale, Binary.side_sub_self hwidth hwidthMax,
    Binary.side_sub_self hheight hmax]
  rfl

theorem drawnSize_rect (hwidth : 1 ≤ width) (hheight : 1 ≤ height) (c : Color) :
    (Shape.rect width height c).drawnSize = ⟨width, height⟩ := by
  simp [Shape.drawnSize, Shape.rect, Nat.max_eq_left hwidth, Nat.max_eq_left hheight]

/-- A filled rectangle is drawn in its own size. -/
theorem rasterize_rect (h : R.DrawsRect width height c) (hwidth : 1 ≤ width) (hheight : 1 ≤ height)
    (hmax : height ≤ Binary.maxCount) (hsize : (Size.mk width height).allocatable = true) :
    ∃ source, R.rasterize (.rect width height c) = .ok source ∧
      (Pixmap.blank ⟨width, height⟩).Repaints source
        (fun x y => x < (Binary.ofNat width : Binary32).toCount ∧
          y < (Binary.ofNat height : Binary32).toCount)
        fun _ => ⟨c.red, c.green, c.blue, 255⟩ := by
  obtain ⟨tree, hparse, hsides, hdrawn⟩ := h
  simp only [Shape.boxWidth, Shape.boxHeight, drawnSize_rect hwidth hheight] at hsides hdrawn
  exact ⟨_, render_own_size hparse hsides hwidth hheight hmax hsize, hdrawn⟩

end Renderer

/-! ### The renderer for rectangles -/

namespace Pixmap

/-- A box is painted where it lies on the pixel map. -/
theorem repaints_paintBox (p : Pixmap) (left top : Int) (box : Size) (pixel : Pixel) :
    Repaints p (p.paintBox left top box pixel)
      (fun a b => left ≤ a ∧ (a : Int) < left + box.width ∧ top ≤ b ∧ (b : Int) < top + box.height)
      fun _ => pixel := by
  refine (repaints_grid left.toNat top.toNat fun y _ x hx q hq => ?_).congr fun a b ha hb => ?_
  · have hin : left.toNat + x < q.size.width := by rw [hq]; omega
    exact (repaints_setPixel hin _ pixel).congr fun a b _ _ => by omega
  · omega

end Pixmap

namespace Canvas

open Pixmap

/-- What shows through a pixel of a source. -/
def through (pixel below : Pixel) : Pixel :=
  if pixel = Pixel.clear then below else (pixel.mixed? below).getD below

theorem through_solid {pixel : Pixel} (h : pixel.alpha = 255) (below : Pixel) :
    through pixel below = pixel := by
  have hle : ∀ v : UInt8, v ≤ pixel.alpha := fun v => by
    rw [h, UInt8.le_iff_toNat_le]
    exact Nat.le_of_lt_succ v.toNat_lt
  have hclear : pixel ≠ Pixel.clear := by
    rintro rfl
    cases h
  rw [through, if_neg hclear, Pixel.mixed?_eq_self ⟨hle _, hle _, hle _⟩ (.inl h), Option.getD_some]

theorem repaints_paintPixel (canvas : Pixmap) (pixel : Pixel) (x : Int) (y : Nat) :
    Repaints canvas (paintPixel canvas pixel x y) (fun a b => (a : Int) = x ∧ b = y)
      (through pixel) := by
  unfold paintPixel
  by_cases hclear : pixel = Pixel.clear
  · have hsame : through pixel = id := funext fun below => if_pos hclear
    rw [if_pos (.inr hclear), hsame]
    exact ⟨rfl, fun _ _ _ => (congrFun Option.map_id _).symm, fun _ _ _ => rfl⟩
  · have hmixed : through pixel = fun below => (pixel.mixed? below).getD below :=
      funext fun below => if_neg hclear
    rw [hmixed]
    split
    · rename_i h
      have hx := h.resolve_right hclear
      exact .of_empty canvas fun a b hin => by omega
    · rename_i h
      have hx := not_or.1 h
      exact (repaints_mixed canvas x.toNat y pixel).congr fun a b _ _ => by omega

/-- The places of a pixel map, row by row. -/
def places (size : Size) : List (Nat × Nat) :=
  (List.range size.height).flatMap fun y => (List.range size.width).map fun x => (x, y)

theorem mem_places {size : Size} {x y : Nat} :
    (x, y) ∈ places size ↔ x < size.width ∧ y < size.height := by
  simp [places, and_comm]

theorem nodup_places (size : Size) : (places size).Nodup := by
  refine List.nodup_flatMap.2 ⟨fun y _ => ?_, List.nodup_range.imp fun hne => ?_⟩
  · exact List.nodup_range.map fun _ _ h => (Prod.ext_iff.1 h).1
  · simp only [Function.onFun, List.disjoint_left, List.mem_map, not_exists, not_and]
    rintro p ⟨x, -, rfl⟩ x' - h
    exact hne (Prod.ext_iff.1 h).2.symm

/-- A step of laying a pixel map on a canvas. -/
def layPlace (source : Pixmap) (left : Int) (top : Nat) (canvas : Pixmap) (place : Nat × Nat) :
    Pixmap :=
  match source.pixel? place.1 place.2 with
  | some pixel => paintPixel canvas pixel (left + place.1) (top + place.2)
  | none => canvas

theorem paintPixels_eq (canvas source : Pixmap) (left : Int) (top : Nat) :
    paintPixels canvas source left top =
      (places source.size).foldl (layPlace source left top) canvas := by
  rw [places, List.foldl_flatMap]
  simp only [List.foldl_map]
  rfl

/-- The pixel that a place of a pixel map comes to. -/
def Spot (left : Int) (top : Nat) (place : Nat × Nat) (x y : Nat) : Prop :=
  (x : Int) = left + place.1 ∧ y = top + place.2

variable {source : Pixmap} {left : Int} {top x y : Nat}

theorem at?_of_spot {place : Nat × Nat} (h : Spot left top place x y) :
    source.at? left top x y = source.pixel? place.1 place.2 := by
  obtain ⟨hx, hy⟩ := h
  rw [at?, if_pos (by omega), show ((x : Int) - left).toNat = place.1 by omega,
    show y - top = place.2 by omega]

theorem exists_spot_of_at? {pixel : Pixel} (h : source.at? left top x y = some pixel) :
    ∃ place, Spot left top place x y ∧ source.pixel? place.1 place.2 = some pixel := by
  rw [at?] at h
  split at h
  · have hx : (x : Int) = left + ((x : Int) - left).toNat := by omega
    have hy : y = top + (y - top) := by omega
    exact ⟨(_, _), ⟨hx, hy⟩, h⟩
  · cases h

theorem pairwise_spot (size : Size) (left : Int) (top : Nat) :
    (places size).Pairwise fun p q => ∀ x y, Spot left top p x y → ¬ Spot left top q x y := by
  refine (nodup_places size).imp fun {p q} hne x y hp hq => hne ?_
  obtain ⟨hpx, hpy⟩ := hp
  obtain ⟨hqx, hqy⟩ := hq
  exact Prod.ext (by omega) (by omega)

theorem repaints_layPlace {place : Nat × Nat} {pixel : Pixel}
    (h : source.pixel? place.1 place.2 = some pixel) (left : Int) (top : Nat) (canvas : Pixmap) :
    Repaints canvas (layPlace source left top canvas place) (Spot left top place)
      (through pixel) := by
  simp only [layPlace, h]
  exact repaints_paintPixel canvas pixel _ _

theorem exists_repaints_layPlace (source : Pixmap) (left : Int) (top : Nat) (size : Size) :
    ∀ place ∈ places source.size, ∃ change, ∀ canvas : Pixmap, canvas.size = size →
      Repaints canvas (layPlace source left top canvas place) (Spot left top place) change := by
  rintro ⟨x, y⟩ hplace
  obtain ⟨pixel, hpixel⟩ := Option.isSome_iff_exists.1 (isSome_pixel?_iff.2 (mem_places.1 hplace))
  exact ⟨through pixel, fun canvas _ => repaints_layPlace hpixel left top canvas⟩

theorem pixel?_paintPixels_of_some {pixel : Pixel} (h : source.at? left top x y = some pixel)
    (canvas : Pixmap) :
    (paintPixels canvas source left top).pixel? x y = (canvas.pixel? x y).map (through pixel) := by
  obtain ⟨place, hspot, hpixel⟩ := exists_spot_of_at? h
  have hmem : place ∈ places source.size :=
    mem_places.2 (isSome_pixel?_iff.1 (by rw [hpixel]; rfl))
  rw [paintPixels_eq]
  exact foldl_apart (exists_repaints_layPlace source left top canvas.size)
    (pairwise_spot source.size left top) hmem
    (fun p _ => repaints_layPlace hpixel left top p) hspot

theorem size_paintPixels (canvas source : Pixmap) (left : Int) (top : Nat) :
    (paintPixels canvas source left top).size = canvas.size := by
  rw [paintPixels_eq]
  exact (foldl_outside (exists_repaints_layPlace source left top canvas.size)).1

theorem pixel?_paintPixels_of_none (h : source.at? left top x y = none) (canvas : Pixmap) :
    (paintPixels canvas source left top).pixel? x y = canvas.pixel? x y := by
  rw [paintPixels_eq]
  refine (foldl_outside (exists_repaints_layPlace source left top canvas.size)).2 x y
    fun place hplace hspot => ?_
  have hsome := isSome_pixel?_iff.2 (mem_places.1 hplace)
  rw [← at?_of_spot hspot, h] at hsome
  cases hsome

end Canvas

namespace Renderer

open Canvas Pixmap

/-- Pixels are laid on a canvas one by one, each in a place of its own. -/
theorem laysOver_ofShapes (shapes : List Shape) : (ofShapes shapes).LaysOver where
  size_eq := size_paintPixels
  hidden canvas source left top x y pixel h hsolid := by
    have hover : through pixel = fun _ => pixel := funext (through_solid hsolid)
    exact (pixel?_paintPixels_of_some h canvas).trans (by rw [hover])
  shown canvas source left top x y hclear := by
    cases h : source.at? left top x y with
    | none => exact pixel?_paintPixels_of_none h canvas
    | some pixel =>
      have hsame : through pixel = id := funext fun below => if_pos (hclear pixel h)
      exact (pixel?_paintPixels_of_some h canvas).trans (by rw [hsame, Option.map_id_fun, id])

/-- An opaque rectangle among the shapes is drawn, when no other shape before it has its markup. -/
theorem drawsRect_ofShapes {shapes : List Shape} {width height : Nat} {c : Color}
    (hfind : shapes.find? (·.markup = (Shape.rect width height c).markup) =
      some (.rect width height c))
    (hwidth : 1 ≤ width) (hheight : 1 ≤ height) (hc : c.alpha = 255) :
    (ofShapes shapes).DrawsRect width height c := by
  refine ⟨_, hfind, rfl, ?_⟩
  have hroom : ¬ (width ≤ 0 ∨ height ≤ 0) := by omega
  have hfilled : ∀ canvas, paintRect canvas (.rect width height c) =
      canvas.paintBox 0 0 ⟨(Shape.rect width height c).boxWidth.toCount,
        (Shape.rect width height c).boxHeight.toCount⟩ (c.premultiplied 255) :=
    fun canvas => if_neg hroom
  change Repaints _ (paintRect _ (.rect width height c)) _ _
  rw [hfilled, Color.premultiplied_eq hc]
  refine (repaints_paintBox _ 0 0 _ _).congr fun x y _ _ => ?_
  dsimp only
  omega

end Renderer

/-! ### Painting against finishing -/

/-- A renderer can take in what is shown: it reads the markup of a shape, and a text is set. -/
def Renderer.TakesIn (R : Renderer) : Content → Prop
  | .shape s => (R.parse? s.markup).isSome = true
  | .text request _ => ∃ p, CellText.paint request = .ok p
  | .picture _ => True
  | .pixels _ => True

namespace Renderer

variable {R : Renderer}

/-- Markup that is read is drawn unless there is no pixel map for it. -/
theorem render_cases {markup : String} (h : (R.parse? markup).isSome = true) (box : Size) :
    let drawn : Size := ⟨max box.width 1, max box.height 1⟩
    (drawn.allocatable = true ∧ ∃ source, R.render markup box = .ok source) ∨
      (¬ drawn.allocatable = true ∧ R.render markup box = .error (.allocation drawn)) := by
  intro drawn
  obtain ⟨tree, htree⟩ := Option.isSome_iff_exists.1 h
  simp only [render, htree, Pixmap.blank?]
  by_cases hsize : drawn.allocatable = true
  · exact .inl ⟨hsize, _, by rw [if_pos hsize]; rfl⟩
  · exact .inr ⟨hsize, by rw [if_neg hsize]; rfl⟩

/-- A primitive is painted, on a canvas that keeps its size, unless it is told to fail. -/
theorem paintOn_cases (hover : R.LaysOver) {p : Primitive} (h : R.TakesIn p.content)
    (canvas : Pixmap) :
    (Flow.paintFailure? p = none ∧ ∃ q, R.paintOn canvas p = .ok q ∧ q.size = canvas.size) ∨
      ∃ failure, Flow.paintFailure? p = some failure ∧ R.paintOn canvas p = .error failure := by
  have hlaid : ∀ source, R.pixmap p.content = .ok source →
      ∃ q, ((R.pixmap p.content).map fun source => R.overlay canvas source p.left p.top) = .ok q ∧
        q.size = canvas.size := by
    intro source hsource
    rw [hsource]
    exact ⟨_, rfl, hover.size_eq canvas source p.left p.top⟩
  rw [paintOn, Flow.paintFailure?]
  split
  · exact .inr ⟨_, rfl, rfl⟩
  · cases hcontent : p.content with
    | shape s =>
      rw [hcontent] at h hlaid
      rcases render_cases h s.size with ⟨hsize, source, hsource⟩ | ⟨hsize, hfailed⟩
      · exact .inl ⟨if_pos hsize, hlaid source hsource⟩
      · exact .inr ⟨_, if_neg hsize, congrArg (Except.map _) hfailed⟩
    | text request size =>
      rw [hcontent] at h hlaid
      obtain ⟨source, hsource⟩ := h
      exact .inl ⟨rfl, hlaid source hsource⟩
    | picture picture =>
      rw [hcontent] at hlaid
      exact .inl ⟨rfl, hlaid _ rfl⟩
    | pixels pixmap =>
      rw [hcontent] at hlaid
      exact .inl ⟨rfl, hlaid _ rfl⟩

/-- The first primitive that is told to fail stops the painting. -/
theorem size_foldlM_paintOn (hover : R.LaysOver) {primitives : List Primitive}
    (h : ∀ p ∈ primitives, R.TakesIn p.content) (canvas : Pixmap) :
    (primitives.foldlM R.paintOn canvas).map Pixmap.size =
      match primitives.findSome? Flow.paintFailure? with
      | some failure => .error failure
      | none => .ok canvas.size := by
  induction primitives generalizing canvas with
  | nil => rfl
  | cons p rest ih =>
    obtain ⟨hp, hrest⟩ := List.forall_mem_cons.1 h
    rw [List.foldlM_cons, List.findSome?_cons]
    rcases paintOn_cases hover hp canvas with ⟨hnone, q, hq, hsize⟩ | ⟨failure, hsome, hfailed⟩
    · rw [hnone, hq, ← hsize]
      exact ih hrest q
    · rw [hsome, hfailed]
      rfl

end Renderer

/-- **Painting and finishing agree.**  With a renderer that takes in everything recorded, a flow
is painted when it can be finished, on a canvas of the same size, and fails with the same
failure when it cannot. -/
theorem Flow.size_paint {R : Renderer} (hover : R.LaysOver) {f : Flow}
    (h : ∀ p ∈ f.primitives, R.TakesIn p.content) (background : Color) (minHeight : Nat) :
    (f.paint R background minHeight).map Pixmap.size =
      (f.finish background minHeight).map Drawing.size := by
  rw [paint, Renderer.paint, finish]
  by_cases hsize : (f.canvasSize minHeight).allocatable = true
  · rw [if_pos hsize, if_pos hsize, Renderer.size_foldlM_paintOn hover h]
    cases f.primitives.findSome? paintFailure? with
    | none => rfl
    | some failure => rfl
  · rw [if_neg hsize, if_neg hsize]
    rfl

end DialogueSheet
