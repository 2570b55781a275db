/-
# Dabs of color

A dab paints one place of a pixel map with a color at a coverage.  The pixel of the color and the
one below are premultiplied, so what comes of them is within its bounds
(`Pixel.IsPremultiplied.fits`): no clamp changes it, it is a pixel, and it is premultiplied again.
So a dab on a valid pixel map paints its place and leaves the others alone (`repaints_dab`), and a
run of dabs keeps the pixel map valid (`dabs_valid`).
-/
import DialogueSheet.Proofs.Raster.Painting

namespace DialogueSheet

/-- A color at a coverage, for one place. -/
structure Dab where
  x : Int
  y : Int
  color : Color
  coverage : UInt8

namespace Dab

/-- The pixel that a dab paints. -/
def source (d : Dab) : Pixel := d.color.premultiplied d.coverage

/-- The dab is for this place. -/
def At (d : Dab) (x y : Nat) : Prop := (x : Int) = d.x ∧ (y : Int) = d.y

instance (d : Dab) (x y : Nat) : Decidable (d.At x y) :=
  inferInstanceAs (Decidable ((x : Int) = d.x ∧ (y : Int) = d.y))

/-- The dab covers nothing, or its place is outside of the grid. -/
def Misses (d : Dab) (size : Size) : Prop :=
  d.coverage = 0 ∨ d.x < 0 ∨ d.y < 0 ∨ (size.width : Int) ≤ d.x ∨ (size.height : Int) ≤ d.y

instance (d : Dab) (size : Size) : Decidable (d.Misses size) :=
  inferInstanceAs (Decidable (d.coverage = 0 ∨ d.x < 0 ∨ d.y < 0 ∨ (size.width : Int) ≤ d.x ∨
    (size.height : Int) ≤ d.y))

theorem isPremultiplied_source (d : Dab) : d.source.IsPremultiplied :=
  d.color.isPremultiplied_premultiplied d.coverage

end Dab

namespace Pixmap

variable {p : Pixmap}

/-- Every pixel is premultiplied. -/
def IsPremultiplied (p : Pixmap) : Prop := ∀ pixel ∈ p.pixels, pixel.IsPremultiplied

/-- The pixel map with one dab on it. -/
def dab (p : Pixmap) (d : Dab) : Pixmap := p.blend d.x d.y d.color d.coverage

/-- The pixel map with dabs on it, one after the other. -/
def dabs (p : Pixmap) (l : List Dab) : Pixmap := l.foldl dab p

/-! ### Places and pixels -/

/-- Every pixel that is stored has a place. -/
theorem exists_index_eq {i : Nat} (h : i < p.pixels.size) :
    ∃ x y, x < p.size.width ∧ y < p.size.height ∧ p.index x y = i := by
  rw [p.size_pixels] at h
  have hpos : 0 < p.size.width := Nat.pos_of_mul_pos_right (Nat.zero_lt_of_lt h)
  exact ⟨i % p.size.width, i / p.size.width, Nat.mod_lt _ hpos, Nat.div_lt_of_lt_mul h,
    Nat.div_add_mod' i p.size.width⟩

theorem mem_pixels_iff {pixel : Pixel} :
    pixel ∈ p.pixels ↔ ∃ x y, p.pixel? x y = some pixel := by
  constructor
  · intro h
    obtain ⟨i, hi, rfl⟩ := Array.mem_iff_getElem.1 h
    obtain ⟨x, y, hx, hy, hindex⟩ := exists_index_eq hi
    refine ⟨x, y, ?_⟩
    rw [pixel?, if_pos ⟨hx, hy⟩, hindex, Array.getElem?_eq_getElem hi]
  · rintro ⟨x, y, h⟩
    rw [pixel?] at h
    split at h
    · exact Array.mem_of_getElem? h
    · cases h

theorem IsPremultiplied.pixel (hp : p.IsPremultiplied) {x y : Nat} {pixel : Pixel}
    (h : p.pixel? x y = some pixel) : pixel.IsPremultiplied :=
  hp pixel (mem_pixels_iff.2 ⟨x, y, h⟩)

theorem isPremultiplied_blank (size : Size) : (blank size).IsPremultiplied := by
  intro pixel h
  rw [blank, filled, Array.mem_replicate] at h
  rw [h.2]
  decide

/-! ### One dab -/

variable {d : Dab}

theorem dab_eq_self (h : d.Misses p.size) : p.dab d = p := by
  unfold dab blend
  split
  · rfl
  · rename_i hactive
    have hnone : p.pixel? d.x.toNat d.y.toNat = none := by
      rw [pixel?, if_neg]
      obtain ⟨hcoverage, hinside⟩ := not_or.1 hactive
      have hout := h.resolve_left hcoverage
      omega
    rw [hnone]

/-- A dab with coverage is mixed in at its place. -/
theorem repaints_dab_of_nonneg (p : Pixmap) (hcoverage : d.coverage ≠ 0) (hx : 0 ≤ d.x)
    (hy : 0 ≤ d.y) :
    Repaints p (p.dab d) d.At fun below => (d.source.mixed? below).getD below := by
  have hblend := repaints_blend p d.x.toNat d.y.toNat d.color hcoverage
  rw [Int.toNat_of_nonneg hx, Int.toNat_of_nonneg hy] at hblend
  exact hblend.congr fun a b _ _ => by unfold Dab.At; omega

/-- **A dab that does not miss lays its pixel over the one at its place**, and leaves the others. -/
theorem repaints_dab (hp : p.IsPremultiplied) (h : ¬ d.Misses p.size) :
    Repaints p (p.dab d) d.At d.source.laidOver := by
  obtain ⟨hcoverage, hx, hy, -, -⟩ : d.coverage ≠ 0 ∧ ¬ d.x < 0 ∧ ¬ d.y < 0 ∧
      ¬ (p.size.width : Int) ≤ d.x ∧ ¬ (p.size.height : Int) ≤ d.y := by
    simpa only [Dab.Misses, not_or] using h
  have hblend := repaints_dab_of_nonneg p hcoverage (Int.not_lt.1 hx) (Int.not_lt.1 hy)
  refine ⟨hblend.size_eq, fun a b hat => ?_, hblend.outside⟩
  rw [hblend.inside a b hat]
  cases hbelow : p.pixel? a b with
  | none => rfl
  | some below =>
    have hfits : d.source.Fits below := d.isPremultiplied_source.fits (hp.pixel hbelow)
    rw [Option.map_some, Option.map_some, hfits.mixed?_eq, Option.getD_some]

/-- What a dab does to a pixel map. -/
structure Dabbed (p : Pixmap) (d : Dab) : Prop where
  /-- Without coverage or outside of the grid it does nothing at all. -/
  misses : d.Misses p.size → p.dab d = p
  /-- The other places stay. -/
  elsewhere : ∀ x y, ¬ d.At x y → (p.dab d).pixel? x y = p.pixel? x y
  /-- At its place the pixels fit, so what is mixed is held at no bound, is not refused and is
  there afterwards. -/
  there : ¬ d.Misses p.size → ∀ x y, d.At x y → ∃ below, p.pixel? x y = some below ∧
    d.source.Fits below ∧ d.source.mixed? below = some (d.source.laidOver below) ∧
      (p.dab d).pixel? x y = some (d.source.laidOver below)
  /-- No pixel becomes more transparent. -/
  alpha_le : ∀ x y below, p.pixel? x y = some below →
    ∃ above, (p.dab d).pixel? x y = some above ∧ below.alpha ≤ above.alpha
  /-- An opaque color at full coverage takes the place of the pixel. -/
  solid : d.coverage = 255 → d.color.alpha = 255 → ∀ x y, d.At x y →
    (p.dab d).pixel? x y =
      (p.pixel? x y).map fun _ => ⟨d.color.red, d.color.green, d.color.blue, 255⟩

theorem dabbed (hp : p.IsPremultiplied) (d : Dab) : Dabbed p d := by
  by_cases hmiss : d.Misses p.size
  · have hself := dab_eq_self hmiss
    refine ⟨fun _ => hself, fun x y _ => by rw [hself], fun hhit => absurd hmiss hhit,
      fun x y below h => ⟨below, by rw [hself, h], UInt8.le_refl _⟩, ?_⟩
    intro hcoverage _ x y hat
    -- the place is outside of the grid
    have hnone : p.pixel? x y = none := by
      rw [pixel?, if_neg]
      rcases hmiss with hzero | hout
      · rw [hcoverage] at hzero
        cases hzero
      · unfold Dab.At at hat
        omega
    rw [hself, hnone]
    rfl
  · have hpainted := repaints_dab hp hmiss
    have hfits : ∀ {x y below}, p.pixel? x y = some below → d.source.Fits below := fun h =>
      d.isPremultiplied_source.fits (hp.pixel h)
    refine ⟨fun h => absurd h hmiss, hpainted.outside, fun _ x y hat => ?_, fun x y below h => ?_,
      fun hcoverage halpha x y hat => ?_⟩
    · have hin : x < p.size.width ∧ y < p.size.height := by
        unfold Dab.Misses Dab.At at *
        omega
      obtain ⟨below, hbelow⟩ := Option.isSome_iff_exists.1 (isSome_pixel?_iff.2 hin)
      exact ⟨below, hbelow, hfits hbelow, (hfits hbelow).mixed?_eq,
        by rw [hpainted.inside x y hat, hbelow, Option.map_some]⟩
    · by_cases hat : d.At x y
      · exact ⟨d.source.laidOver below, by rw [hpainted.inside x y hat, h, Option.map_some],
          (hfits h).alpha_le_laidOver⟩
      · exact ⟨below, by rw [hpainted.outside x y hat, h], UInt8.le_refl _⟩
    · have hsource : d.source = ⟨d.color.red, d.color.green, d.color.blue, 255⟩ := by
        rw [Dab.source, hcoverage, Color.premultiplied_eq halpha]
      rw [hpainted.inside x y hat]
      cases hbelow : p.pixel? x y with
      | none => rfl
      | some below =>
        have hhides : d.source.mixed? below = some d.source :=
          Pixel.mixed?_eq_self d.isPremultiplied_source (.inl (by rw [hsource]))
        rw [(hfits hbelow).mixed?_eq] at hhides
        rw [Option.map_some, Option.map_some, Option.some.inj hhides, hsource]

theorem size_dab (p : Pixmap) (d : Dab) : (p.dab d).size = p.size := by
  unfold dab blend
  split
  · rfl
  · split
    · rfl
    · split <;> rfl

theorem IsPremultiplied.dab (hp : p.IsPremultiplied) (d : Dab) : (p.dab d).IsPremultiplied := by
  intro pixel h
  obtain ⟨x, y, hpixel⟩ := mem_pixels_iff.1 h
  have hdabbed := dabbed hp d
  by_cases hat : d.At x y ∧ ¬ d.Misses p.size
  · obtain ⟨below, -, hfits, -, hover⟩ := hdabbed.there hat.2 x y hat.1
    rw [hover] at hpixel
    exact Option.some.inj hpixel ▸ hfits.isPremultiplied_laidOver
  · refine hp.pixel (x := x) (y := y) ?_
    rw [← hpixel]
    by_cases hmiss : d.Misses p.size
    · rw [hdabbed.misses hmiss]
    · exact (hdabbed.elsewhere x y fun h => hat ⟨h, hmiss⟩).symm

/-! ### Runs of dabs -/

theorem size_dabs (p : Pixmap) (l : List Dab) : (p.dabs l).size = p.size := by
  induction l generalizing p with
  | nil => rfl
  | cons d rest ih => exact (ih (p.dab d)).trans (size_dab p d)

theorem IsPremultiplied.dabs (hp : p.IsPremultiplied) (l : List Dab) :
    (p.dabs l).IsPremultiplied := by
  induction l generalizing p with
  | nil => exact hp
  | cons d rest ih => exact ih (hp.dab d)

theorem exists_alpha_le_dabs (hp : p.IsPremultiplied) (l : List Dab) {x y : Nat} {below : Pixel}
    (h : p.pixel? x y = some below) :
    ∃ above, (p.dabs l).pixel? x y = some above ∧ below.alpha ≤ above.alpha := by
  induction l generalizing p below with
  | nil => exact ⟨below, h, UInt8.le_refl _⟩
  | cons d rest ih =>
    obtain ⟨between, hbetween, hfirst⟩ := (dabbed hp d).alpha_le x y below h
    obtain ⟨above, habove, hrest⟩ := ih (hp.dab d) hbetween
    exact ⟨above, habove, UInt8.le_trans hfirst hrest⟩

/-- **Dabs keep a pixel map valid.**  Every one of them, at whatever point of the run, does to the
pixel map no more and no less than to lay its pixel over the one at its place. -/
theorem dabs_valid (hp : p.IsPremultiplied) (l : List Dab) :
    (p.dabs l).size = p.size ∧ (p.dabs l).IsPremultiplied ∧
      (∀ x y below, p.pixel? x y = some below →
        ∃ above, (p.dabs l).pixel? x y = some above ∧ below.alpha ≤ above.alpha) ∧
      ∀ earlier d later, l = earlier ++ d :: later →
        (p.dabs earlier).IsPremultiplied ∧ Dabbed (p.dabs earlier) d :=
  ⟨size_dabs p l, hp.dabs l, fun _ _ _ h => exists_alpha_le_dabs hp l h,
    fun earlier d _ _ => ⟨hp.dabs earlier, dabbed (hp.dabs earlier) d⟩⟩

/-- Two translucent dabs on one place are mixed, one beside the grid and one without coverage do
nothing, and an opaque one takes the place over. -/
theorem dabs_valid_of_five :
    let off : Dab := ⟨-1, 1, Color.black, 255⟩
    let cover : Dab := ⟨0, 0, Color.white, 255⟩
    let l : List Dab := [⟨0, 0, ⟨255, 0, 0, 255⟩, 128⟩, ⟨0, 0, ⟨17, 99, 201, 77⟩, 200⟩, off,
      ⟨1, 0, Color.white, 0⟩, cover]
    let p := blank ⟨2, 1⟩
    p.IsPremultiplied ∧ (p.dabs l).IsPremultiplied ∧
      (p.dabs (l.take 2)).pixel? 0 0 = some ⟨102, 23, 47, 158⟩ ∧
      (p.dabs (l.take 2)).dab off = p.dabs (l.take 2) ∧
      (p.dabs l).pixel? 0 0 = some ⟨255, 255, 255, 255⟩ ∧
      (p.dabs l).pixel? 1 0 = some Pixel.clear := by
  intro off cover l p
  have hp : p.IsPremultiplied := isPremultiplied_blank _
  obtain ⟨-, hvalid, -, hsteps⟩ := dabs_valid hp l
  have hoff := (hsteps (l.take 2) off (l.drop 3) rfl).2.misses (by decide)
  have hcover := (hsteps (l.take 4) cover [] rfl).2
  have hrun : p.dabs l = (p.dabs (l.take 4)).dab cover := rfl
  refine ⟨hp, hvalid, by decide, hoff, ?_, ?_⟩
  · rw [hrun, hcover.solid rfl rfl 0 0 (by decide)]
    decide
  · rw [hrun, hcover.elsewhere 1 0 (by decide)]
    decide

end Pixmap
end DialogueSheet
