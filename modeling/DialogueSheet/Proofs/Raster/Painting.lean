/-
# Painting a region of a pixel map

A pixel map is seen as what `pixel?` shows at every place.  `Repaints p q region change` says
that `q` shows `change` of what `p` shows in a region and the same as `p` elsewhere; painting a
single pixel is such a step.  In a run of such steps the last one that has a place is seen there
(`foldl_last`), and steps whose regions do not meet are each seen as on their own (`foldl_apart`);
so a box can be painted place by place (`repaints_grid`).

What is painted at full coverage is seen unchanged where it is opaque, and where nothing was
painted before (`mixed?_eq_self`).
-/
import DialogueSheet.Raster.Pixmap

namespace DialogueSheet

/-! ### Mixing -/

namespace Pixel

theorem scaleDown_mul_255 (n : Nat) : scaleDown (n * 255) = n := by
  unfold scaleDown
  omega

theorem scaleDown_mul_le {n : Nat} (h : n ≤ 255) (alpha : Nat) : scaleDown (n * alpha) ≤ alpha := by
  have hmul : n * alpha ≤ 255 * alpha := Nat.mul_le_mul_right alpha h
  unfold scaleDown
  omega

theorem scaleDown_le_scaleDown {m n : Nat} (h : m ≤ n) : scaleDown m ≤ scaleDown n :=
  Nat.div_le_div_right (Nat.add_le_add_right h 127)

variable {source below : Pixel}

/-- A channel of `source` over that of `below`, held at no bound. -/
def laidChannel (source below : Pixel) (channel : Pixel → UInt8) : Nat :=
  mixChannel (channel source).toNat (channel below).toNat source.alpha.toNat

/-- The pixel `source` over the pixel `below`, with no channel held at a bound. -/
def laidOver (source below : Pixel) : Pixel :=
  let channel (c : Pixel → UInt8) := UInt8.ofNat (laidChannel source below c)
  ⟨channel red, channel green, channel blue, channel alpha⟩

/-- The channels of `source` over `below` are within their bounds. -/
structure Fits (source below : Pixel) : Prop where
  alpha_le : laidChannel source below alpha ≤ 255
  red_le : laidChannel source below red ≤ laidChannel source below alpha
  green_le : laidChannel source below green ≤ laidChannel source below alpha
  blue_le : laidChannel source below blue ≤ laidChannel source below alpha

/-- What lets nothing through takes 255 parts, and rounding keeps the order of channels. -/
theorem IsPremultiplied.fits (hsource : source.IsPremultiplied) (hbelow : below.IsPremultiplied) :
    Fits source below := by
  have hmono : ∀ {s d : UInt8}, s ≤ source.alpha → d ≤ below.alpha →
      mixChannel s.toNat d.toNat source.alpha.toNat ≤ laidChannel source below alpha :=
    fun hs hd => Nat.add_le_add (UInt8.le_iff_toNat_le.1 hs)
      (scaleDown_le_scaleDown (Nat.mul_le_mul_right _ (UInt8.le_iff_toNat_le.1 hd)))
  refine ⟨?_, hmono hsource.1 hbelow.1, hmono hsource.2.1 hbelow.2.1, hmono hsource.2.2 hbelow.2.2⟩
  have hfull := source.alpha.toNat_lt
  have hrest := scaleDown_mul_le (Nat.le_of_lt_succ below.alpha.toNat_lt)
    (255 - source.alpha.toNat)
  simp only [laidChannel, mixChannel]
  omega

namespace Fits

variable (h : Fits source below)
include h

/-- No clamp changes anything, and the result is a pixel. -/
theorem mixed?_eq : source.mixed? below = some (source.laidOver below) := by
  have hlt : ∀ {n}, n ≤ laidChannel source below alpha → n < 256 := fun hn =>
    Nat.lt_of_le_of_lt (Nat.le_trans hn h.alpha_le) (by decide)
  have hle : ∀ {n}, n ≤ laidChannel source below alpha →
      UInt8.ofNat n ≤ UInt8.ofNat (laidChannel source below alpha) := fun hn => by
    rw [UInt8.le_iff_toNat_le, UInt8.toNat_ofNat_of_lt' (hlt hn),
      UInt8.toNat_ofNat_of_lt' (hlt (Nat.le_refl _))]
    exact hn
  have hclamped : source.mixed? below = ofChannels? (source.laidOver below).red
      (source.laidOver below).green (source.laidOver below).blue (source.laidOver below).alpha := by
    have halpha := Nat.min_eq_left h.alpha_le
    have hred := Nat.min_eq_left h.red_le
    have hgreen := Nat.min_eq_left h.green_le
    have hblue := Nat.min_eq_left h.blue_le
    simp only [laidChannel] at halpha hred hgreen hblue
    simp only [mixed?, laidOver, laidChannel, halpha, hred, hgreen, hblue]
  rw [hclamped]
  exact if_pos ⟨hle h.red_le, hle h.green_le, hle h.blue_le⟩

theorem isPremultiplied_laidOver : (source.laidOver below).IsPremultiplied := by
  have hsome := h.mixed?_eq
  simp only [mixed?, ofChannels?] at hsome
  split at hsome
  · rename_i hvalid
    exact Option.some.inj hsome ▸ hvalid
  · cases hsome

theorem toNat_alpha_laidOver :
    (source.laidOver below).alpha.toNat = laidChannel source below alpha :=
  UInt8.toNat_ofNat_of_lt' (Nat.lt_succ_of_le h.alpha_le)

/-- What is painted on a pixel never makes it more transparent. -/
theorem alpha_le_laidOver : below.alpha ≤ (source.laidOver below).alpha := by
  have hsource := Nat.le_of_lt_succ source.alpha.toNat_lt
  have hwhole : below.alpha.toNat * (255 - source.alpha.toNat) +
      below.alpha.toNat * source.alpha.toNat = below.alpha.toNat * 255 := by
    rw [← Nat.mul_add, Nat.sub_add_cancel hsource]
  have htaken : below.alpha.toNat * source.alpha.toNat ≤ 255 * source.alpha.toNat :=
    Nat.mul_le_mul_right _ (Nat.le_of_lt_succ below.alpha.toNat_lt)
  rw [UInt8.le_iff_toNat_le, h.toNat_alpha_laidOver]
  simp only [laidChannel, mixChannel, scaleDown]
  omega

end Fits

/-- An opaque pixel hides what lies below it, and on a clear pixel nothing is mixed in. -/
theorem mixed?_eq_self (h : source.IsPremultiplied)
    (hbelow : source.alpha = 255 ∨ below = clear) : source.mixed? below = some source := by
  have hself : ∀ channel : Pixel → UInt8, channel clear = 0 →
      laidChannel source below channel = (channel source).toNat := by
    intro channel hzero
    rcases hbelow with hsolid | rfl
    · simp [laidChannel, mixChannel, scaleDown, hsolid]
    · simp [laidChannel, mixChannel, scaleDown, hzero]
  obtain ⟨hred, hgreen, hblue⟩ := h
  have hfits : Fits source below := by
    constructor <;> simp only [hself red rfl, hself green rfl, hself blue rfl, hself alpha rfl]
    · exact Nat.le_of_lt_succ source.alpha.toNat_lt
    · exact UInt8.le_iff_toNat_le.1 hred
    · exact UInt8.le_iff_toNat_le.1 hgreen
    · exact UInt8.le_iff_toNat_le.1 hblue
  rw [hfits.mixed?_eq]
  simp only [laidOver, hself red rfl, hself green rfl, hself blue rfl, hself alpha rfl,
    UInt8.ofNat_toNat]

end Pixel

namespace Color

/-- Full coverage leaves the alpha of a color. -/
theorem premultiplied_full (c : Color) :
    c.premultiplied 255 =
      ⟨UInt8.ofNat (Pixel.scaleDown (c.red.toNat * c.alpha.toNat)),
        UInt8.ofNat (Pixel.scaleDown (c.green.toNat * c.alpha.toNat)),
        UInt8.ofNat (Pixel.scaleDown (c.blue.toNat * c.alpha.toNat)), c.alpha⟩ := by
  have hscale : Pixel.scaleDown (c.alpha.toNat * (255 : UInt8).toNat) = c.alpha.toNat :=
    Pixel.scaleDown_mul_255 c.alpha.toNat
  simp only [premultiplied, hscale, UInt8.ofNat_toNat]

theorem isPremultiplied_premultiplied (c : Color) (coverage : UInt8) :
    (c.premultiplied coverage).IsPremultiplied := by
  have halpha : Pixel.scaleDown (c.alpha.toNat * coverage.toNat) < 256 :=
    Nat.lt_of_le_of_lt (Pixel.scaleDown_mul_le (Nat.le_of_lt_succ c.alpha.toNat_lt) _)
      coverage.toNat_lt
  have hchannel : ∀ v : UInt8,
      UInt8.ofNat (Pixel.scaleDown (v.toNat * Pixel.scaleDown (c.alpha.toNat * coverage.toNat))) ≤
        (c.premultiplied coverage).alpha := by
    intro v
    have hle := Pixel.scaleDown_mul_le (Nat.le_of_lt_succ v.toNat_lt)
      (Pixel.scaleDown (c.alpha.toNat * coverage.toNat))
    rw [premultiplied, UInt8.le_iff_toNat_le, UInt8.toNat_ofNat_of_lt' halpha,
      UInt8.toNat_ofNat_of_lt' (Nat.lt_of_le_of_lt hle halpha)]
    exact hle
  exact ⟨hchannel c.red, hchannel c.green, hchannel c.blue⟩

/-- Filling takes an opaque color as it is. -/
theorem filling_eq {c : Color} (h : c.alpha = 255) :
    c.filling = ⟨c.red, c.green, c.blue, 255⟩ := by
  have hopacity : c.opacity = 1 := by
    rw [opacity, h]
    decide +kernel
  have hchannel : ∀ n < 256, toChannel (Binary.ofNat n / 255 * 1) = UInt8.ofNat n := by
    decide +kernel
  have hfull : toChannel 1 = 255 := by decide +kernel
  simp only [filling, hopacity, hchannel _ (UInt8.toNat_lt _), hfull, UInt8.ofNat_toNat]

/-- An opaque color at full coverage is a pixel of its channels. -/
theorem premultiplied_eq {c : Color} (h : c.alpha = 255) :
    c.premultiplied 255 = ⟨c.red, c.green, c.blue, 255⟩ := by
  have hfull : ∀ v : UInt8, UInt8.ofNat (Pixel.scaleDown (v.toNat * (255 : UInt8).toNat)) = v := by
    intro v
    rw [show (255 : UInt8).toNat = 255 from rfl, Pixel.scaleDown_mul_255, UInt8.ofNat_toNat]
  rw [premultiplied_full, h, hfull, hfull, hfull]

end Color

/-! ### Places -/

namespace Pixmap

variable {p q r : Pixmap}

theorem index_lt {x y : Nat} (hx : x < p.size.width) (hy : y < p.size.height) :
    p.index x y < p.pixels.size :=
  calc p.index x y < (y + 1) * p.size.width := by rw [index, Nat.succ_mul]; omega
    _ ≤ p.size.height * p.size.width := Nat.mul_le_mul_right _ hy
    _ = p.pixels.size := by rw [p.size_pixels, Nat.mul_comm]

theorem index_eq_iff {x y a b : Nat} (hx : x < p.size.width) (ha : a < p.size.width) :
    p.index x y = p.index a b ↔ a = x ∧ b = y := by
  have hpos : 0 < p.size.width := by omega
  constructor
  · intro h
    have hrow := congrArg (· / p.size.width) h
    simp only [index, Nat.mul_comm _ p.size.width, Nat.mul_add_div hpos, Nat.div_eq_of_lt hx,
      Nat.div_eq_of_lt ha, Nat.add_zero] at hrow
    subst hrow
    simp only [index] at h
    omega
  · rintro ⟨rfl, rfl⟩
    rfl

theorem isSome_pixel?_iff {x y : Nat} :
    (p.pixel? x y).isSome ↔ x < p.size.width ∧ y < p.size.height := by
  rw [pixel?]
  split
  · rename_i hin
    simp [hin, index_lt hin.1 hin.2]
  · rename_i hout
    simp [hout]

theorem pixel?_filled (size : Size) (pixel : Pixel) {x y : Nat} (hx : x < size.width)
    (hy : y < size.height) : (filled size pixel).pixel? x y = some pixel := by
  have hlt := index_lt (p := filled size pixel) hx hy
  rw [pixel?, if_pos ⟨hx, hy⟩]
  simp only [filled, Array.size_replicate] at hlt ⊢
  rw [Array.getElem?_replicate, if_pos hlt]

theorem pixel?_setPixel {x : Nat} (hx : x < p.size.width) (y : Nat) (pixel : Pixel) (a b : Nat) :
    (p.setPixel x y pixel).pixel? a b =
      if a = x ∧ b = y then (p.pixel? a b).map fun _ => pixel else p.pixel? a b := by
  by_cases hin : a < p.size.width ∧ b < p.size.height
  · have hlt := index_lt hin.1 hin.2
    have hset : (p.setPixel x y pixel).pixel? a b =
        (p.pixels.setIfInBounds (p.index x y) pixel)[p.index a b]? := if_pos hin
    rw [hset, Array.getElem?_setIfInBounds, pixel?, if_pos hin]
    by_cases hplace : a = x ∧ b = y
    · have hindex := (index_eq_iff hx hin.1).2 hplace
      rw [if_pos hindex, if_pos hplace, hindex, if_pos hlt, Array.getElem?_eq_getElem hlt,
        Option.map_some]
    · rw [if_neg fun h => hplace ((index_eq_iff hx hin.1).1 h), if_neg hplace]
  · have hnone : ∀ q : Pixmap, q.size = p.size → q.pixel? a b = none := by
      intro q hq
      rw [pixel?, if_neg (by rwa [hq])]
    have hset := hnone (p.setPixel x y pixel) rfl
    rw [hset, hnone p rfl]
    simp

/-! ### Regions -/

/-- `q` shows `change` of what `p` shows in a region, and what `p` shows elsewhere. -/
structure Repaints (p q : Pixmap) (region : Nat → Nat → Prop) (change : Pixel → Pixel) : Prop where
  size_eq : q.size = p.size
  inside : ∀ x y, region x y → q.pixel? x y = (p.pixel? x y).map change
  outside : ∀ x y, ¬ region x y → q.pixel? x y = p.pixel? x y

namespace Repaints

variable {region : Nat → Nat → Prop} {change : Pixel → Pixel}

/-- Only the places of the pixel map count. -/
theorem congr {region' : Nat → Nat → Prop} (h : Repaints p q region change)
    (hregion : ∀ x y, x < p.size.width → y < p.size.height → (region' x y ↔ region x y)) :
    Repaints p q region' change := by
  have hbeyond : ∀ x y, ¬ (x < p.size.width ∧ y < p.size.height) →
      q.pixel? x y = none ∧ p.pixel? x y = none := by
    intro x y hout
    rw [pixel?, pixel?, h.size_eq, if_neg hout, if_neg hout]
    exact ⟨rfl, rfl⟩
  refine ⟨h.size_eq, fun x y hin => ?_, fun x y hout => ?_⟩
  · by_cases hplace : x < p.size.width ∧ y < p.size.height
    · exact h.inside x y ((hregion x y hplace.1 hplace.2).1 hin)
    · obtain ⟨hq, hp⟩ := hbeyond x y hplace
      rw [hq, hp]
      rfl
  · by_cases hplace : x < p.size.width ∧ y < p.size.height
    · exact h.outside x y (hout ∘ (hregion x y hplace.1 hplace.2).2)
    · obtain ⟨hq, hp⟩ := hbeyond x y hplace
      rw [hq, hp]

theorem of_empty (p : Pixmap) (hregion : ∀ x y, ¬ region x y) : Repaints p p region change where
  size_eq := rfl
  inside x y hin := absurd hin (hregion x y)
  outside _ _ _ := rfl

end Repaints

/-- A pixel that is set is a region of its own. -/
theorem repaints_setPixel {x : Nat} (hx : x < p.size.width) (y : Nat) (pixel : Pixel) :
    Repaints p (p.setPixel x y pixel) (fun a b => a = x ∧ b = y) fun _ => pixel where
  size_eq := rfl
  inside a b hin := by rw [pixel?_setPixel hx, if_pos hin]
  outside a b hout := by rw [pixel?_setPixel hx, if_neg hout]

/-- What is painted on a pixel is mixed with it. -/
theorem repaints_mixed (p : Pixmap) (x y : Nat) (source : Pixel) :
    Repaints p
      (match p.pixel? x y >>= source.mixed? with
        | some mixed => p.setPixel x y mixed
        | none => p)
      (fun a b => a = x ∧ b = y) fun below => (source.mixed? below).getD below := by
  cases hbelow : p.pixel? x y with
  | none =>
    refine ⟨rfl, ?_, fun _ _ _ => rfl⟩
    rintro a b ⟨rfl, rfl⟩
    exact hbelow.trans (by rw [hbelow]; rfl)
  | some below =>
    have hx := (isSome_pixel?_iff.1 (by rw [hbelow]; rfl)).1
    change Repaints p (match source.mixed? below with
      | some mixed => p.setPixel x y mixed
      | none => p) _ _
    cases hmixed : source.mixed? below with
    | none =>
      refine ⟨rfl, ?_, fun _ _ _ => rfl⟩
      rintro a b ⟨rfl, rfl⟩
      rw [hbelow, Option.map_some, hmixed]
      rfl
    | some mixed =>
      have hset := repaints_setPixel hx y mixed
      refine ⟨rfl, ?_, hset.outside⟩
      rintro a b ⟨rfl, rfl⟩
      rw [hset.inside a b ⟨rfl, rfl⟩, hbelow, Option.map_some, Option.map_some, hmixed]
      rfl

/-- With any coverage at all the pixel of a color is mixed in. -/
theorem repaints_blend (p : Pixmap) (x y : Nat) (color : Color) {coverage : UInt8}
    (h : coverage ≠ 0) :
    Repaints p (p.blend x y color coverage) (fun a b => a = x ∧ b = y)
      fun below => ((color.premultiplied coverage).mixed? below).getD below := by
  have hmixed := repaints_mixed p x y (color.premultiplied coverage)
  rw [blend, if_neg (by simp [h]), Int.toNat_natCast, Int.toNat_natCast]
  cases hbelow : p.pixel? x y with
  | none => simpa [hbelow] using hmixed
  | some below =>
    cases hpixel : (color.premultiplied coverage).mixed? below with
    | none => simpa [hbelow, hpixel] using hmixed
    | some mixed => simpa [hbelow, hpixel] using hmixed

section Fold

variable {α : Type} {step : Pixmap → α → Pixmap} {region : α → Nat → Nat → Prop} {l : List α}

/-- Steps that change nothing. -/
theorem foldl_eq_self (h : ∀ a ∈ l, step q a = q) : l.foldl step q = q := by
  induction l with
  | nil => rfl
  | cons a rest ih =>
    obtain ⟨ha, hrest⟩ := List.forall_mem_cons.1 h
    rw [List.foldl_cons, ha, ih hrest]

/-- A place that no region of a run has shows what it showed before. -/
theorem foldl_outside (hstep : ∀ a ∈ l, ∃ change, ∀ p : Pixmap, p.size = q.size →
      Repaints p (step p a) (region a) change) :
    (l.foldl step q).size = q.size ∧
      ∀ x y, (∀ a ∈ l, ¬ region a x y) → (l.foldl step q).pixel? x y = q.pixel? x y := by
  induction l generalizing q with
  | nil => exact ⟨rfl, fun _ _ _ => rfl⟩
  | cons a rest ih =>
    obtain ⟨hstep, hsteps⟩ := List.forall_mem_cons.1 hstep
    obtain ⟨change, hchange⟩ := hstep
    have ha := hchange q rfl
    obtain ⟨hsize, hout⟩ := ih (q := step q a) fun b hb => by
      rw [ha.size_eq]
      exact hsteps b hb
    refine ⟨hsize.trans ha.size_eq, fun x y hnone => ?_⟩
    obtain ⟨hnot, hnone⟩ := List.forall_mem_cons.1 hnone
    rw [List.foldl_cons, hout x y hnone, ha.outside x y hnot]

variable {upper lower : List α} {a : α} {change : Pixel → Pixel}

/-- The last of the regions that have a place is seen there. -/
theorem foldl_last (hstep : ∀ b ∈ upper ++ a :: lower, ∃ change, ∀ p : Pixmap, p.size = q.size →
      Repaints p (step p b) (region b) change)
    (ha : ∀ p : Pixmap, p.size = q.size → Repaints p (step p a) (region a) change)
    {x y : Nat} (hin : region a x y) (hlast : ∀ b ∈ lower, ¬ region b x y) :
    ((upper ++ a :: lower).foldl step q).pixel? x y =
      ((upper.foldl step q).pixel? x y).map change := by
  obtain ⟨hupper, hrest⟩ := List.forall_mem_append.1 hstep
  have hsize := (foldl_outside hupper).1
  have hpainted := ha (upper.foldl step q) hsize
  have hlower := (foldl_outside (q := step (upper.foldl step q) a) fun b hb => by
    rw [hpainted.size_eq, hsize]
    exact hrest b (List.mem_cons_of_mem _ hb)).2 x y hlast
  rw [List.foldl_append, List.foldl_cons, hlower, hpainted.inside x y hin]

/-- Regions that do not meet are painted as each of them is on its own. -/
theorem foldl_apart (hstep : ∀ b ∈ l, ∃ change, ∀ p : Pixmap, p.size = q.size →
      Repaints p (step p b) (region b) change)
    (hapart : l.Pairwise fun a b => ∀ x y, region a x y → ¬ region b x y) (hmem : a ∈ l)
    (ha : ∀ p : Pixmap, p.size = q.size → Repaints p (step p a) (region a) change)
    {x y : Nat} (hin : region a x y) :
    (l.foldl step q).pixel? x y = (q.pixel? x y).map change := by
  obtain ⟨upper, lower, rfl⟩ := List.append_of_mem hmem
  obtain ⟨-, hlower, hupper⟩ := List.pairwise_append.1 hapart
  rw [foldl_last hstep ha hin fun b hb => (List.pairwise_cons.1 hlower).1 b hb x y hin,
    (foldl_outside fun b hb => hstep b (List.mem_append_left _ hb)).2 x y fun b hb h =>
      hupper b hb a List.mem_cons_self x y h hin]

end Fold

/-- The regions of the numbers below `n`, each painted in the same way. -/
theorem repaints_range (region : Nat → Nat → Nat → Prop) {step : Pixmap → Nat → Pixmap}
    {change : Pixel → Pixel} {n : Nat}
    (hstep : ∀ i < n, ∀ p : Pixmap, p.size = q.size → Repaints p (step p i) (region i) change)
    (hapart : ∀ i j x y, region i x y → region j x y → i = j) :
    Repaints q ((List.range n).foldl step q) (fun x y => ∃ i < n, region i x y) change := by
  have hsteps : ∀ i ∈ List.range n, ∃ change, ∀ p : Pixmap, p.size = q.size →
      Repaints p (step p i) (region i) change := fun i hi =>
    ⟨change, hstep i (List.mem_range.1 hi)⟩
  obtain ⟨hsize, hout⟩ := foldl_outside hsteps
  refine ⟨hsize, ?_, fun x y hnone => hout x y fun i hi h => hnone ⟨i, List.mem_range.1 hi, h⟩⟩
  rintro x y ⟨i, hi, hin⟩
  refine foldl_apart hsteps (List.nodup_range.imp fun hne x y hi hj => ?_) (List.mem_range.2 hi)
    (hstep i hi) hin
  exact hne (hapart _ _ x y hi hj)

/-- A box that is painted place by place, row after row. -/
theorem repaints_grid (left : Int) (top : Nat) {width height : Nat}
    {step : Pixmap → Nat → Nat → Pixmap} {change : Pixel → Pixel}
    (hstep : ∀ y < height, ∀ x < width, ∀ q : Pixmap, q.size = p.size →
      Repaints q (step q y x) (fun a b => (a : Int) = left + x ∧ b = top + y) change) :
    Repaints p
      ((List.range height).foldl (fun q y =>
        (List.range width).foldl (fun q x => step q y x) q) p)
      (fun a b => left ≤ a ∧ (a : Int) < left + width ∧ top ≤ b ∧ b < top + height) change := by
  have hrow : ∀ y < height, ∀ q : Pixmap, q.size = p.size →
      Repaints q ((List.range width).foldl (fun q x => step q y x) q)
        (fun a b => b = top + y ∧ left ≤ a ∧ (a : Int) < left + width) change := by
    intro y hy q hq
    refine (repaints_range (fun x a b => (a : Int) = left + x ∧ b = top + y)
      (fun x hx q' hq' => hstep y hy x hx q' (hq'.trans hq))
      fun i j a b hi hj => by omega).congr fun a b _ _ => ?_
    constructor
    · rintro ⟨rfl, hleft, hright⟩
      exact ⟨(a - left).toNat, by omega, by omega, rfl⟩
    · rintro ⟨x, hx, ha, rfl⟩
      omega
  refine (repaints_range _ hrow fun i j a b hi hj => by omega).congr fun a b _ _ => ?_
  constructor
  · rintro ⟨hleft, hright, htop, hbottom⟩
    exact ⟨b - top, by omega, by omega, hleft, hright⟩
  · rintro ⟨y, hy, rfl, hleft, hright⟩
    exact ⟨hleft, hright, by omega, by omega⟩

end Pixmap
end DialogueSheet
