/-
# Decoding an image is painting it

An image is made premultiplied in place, color by color.  Its colors may as well be painted on a
blank pixel map, each at full coverage in its place: on a clear pixel a dab leaves the pixel of its
color, and that of full coverage is the one that decoding makes (`Color.premultiplied_full`).  No
two dabs have a place in common, so their order does not matter (`decode_eq_dabs`).
-/
import DialogueSheet.Proofs.Raster.Blending
import DialogueSheet.Raster.Image

namespace DialogueSheet

namespace Pixmap

/-- A pixel map is what it shows. -/
theorem ext_pixel? {p q : Pixmap} (hsize : p.size = q.size)
    (h : ∀ x y, p.pixel? x y = q.pixel? x y) : p = q := by
  have hpixels : p.pixels = q.pixels := by
    refine Array.ext (by rw [p.size_pixels, q.size_pixels, hsize]) fun i hp hq => ?_
    obtain ⟨x, y, hx, hy, hindex⟩ := exists_index_eq hp
    have hplace := h x y
    rw [pixel?, pixel?, if_pos ⟨hx, hy⟩, if_pos ⟨hsize ▸ hx, hsize ▸ hy⟩] at hplace
    have hindex' : q.index x y = i := by rw [← hindex, index, index, hsize]
    rw [hindex, hindex', Array.getElem?_eq_getElem hp, Array.getElem?_eq_getElem hq] at hplace
    exact Option.some.inj hplace
  cases p
  cases q
  subst hsize hpixels
  rfl

/-- Dabs of which no two have a place in common, on a clear pixel map. -/
theorem pixel?_dabs_blank {l : List Dab} {size : Size} (hfull : ∀ d ∈ l, d.coverage ≠ 0)
    (hgrid : ∀ d ∈ l, 0 ≤ d.x ∧ 0 ≤ d.y)
    (hapart : l.Pairwise fun d e => ∀ x y, d.At x y → ¬ e.At x y) {d : Dab} (hd : d ∈ l)
    {x y : Nat} (hat : d.At x y) (hx : x < size.width) (hy : y < size.height) :
    ((blank size).dabs l).pixel? x y = some d.source := by
  have hstep : ∀ e ∈ l, ∀ p : Pixmap, Repaints p (p.dab e) e.At
      fun below => (e.source.mixed? below).getD below := fun e he p =>
    repaints_dab_of_nonneg p (hfull e he) (hgrid e he).1 (hgrid e he).2
  rw [dabs, foldl_apart (fun e he => ⟨_, fun p _ => hstep e he p⟩) hapart hd
    (fun p _ => hstep d hd p) hat, blank, pixel?_filled size _ hx hy, Option.map_some,
    Pixel.mixed?_eq_self d.isPremultiplied_source (.inr rfl), Option.getD_some]

end Pixmap

namespace StraightImage

variable {img : StraightImage}

/-- A dab at full coverage for each color, in its place. -/
def dabs (img : StraightImage) : List Dab :=
  img.colors.toList.zipIdx.map fun (c, i) =>
    ⟨(i % img.size.width : Nat), (i / img.size.width : Nat), c, 255⟩

theorem pairwise_dabs (img : StraightImage) :
    img.dabs.Pairwise fun d e => ∀ x y, d.At x y → ¬ e.At x y := by
  have hindices : (img.colors.toList.zipIdx.map Prod.snd).Pairwise (· < ·) := by
    rw [List.zipIdx_map_snd]
    exact List.pairwise_lt_range'
  refine List.pairwise_map.2 ((List.pairwise_map.1 hindices).imp fun {a b} hlt x y ha hb => ?_)
  simp only [Dab.At, Int.natCast_inj] at ha hb
  have hi := Nat.div_add_mod' a.2 img.size.width
  have hj := Nat.div_add_mod' b.2 img.size.width
  rw [← ha.1, ← ha.2, hb.1, hb.2] at hi
  omega

/-- Every place of the image has the dab of its color. -/
theorem exists_mem_dabs {x y : Nat} (hx : x < img.size.width) (hy : y < img.size.height) :
    ∃ d ∈ img.dabs, d.At x y ∧ d.coverage = 255 ∧
      img.colors[y * img.size.width + x]? = some d.color := by
  have hindex : y * img.size.width + x < img.colors.size := by
    rw [img.size_colors, Nat.mul_comm img.size.width]
    calc y * img.size.width + x < (y + 1) * img.size.width := by rw [Nat.succ_mul]; omega
      _ ≤ img.size.height * img.size.width := Nat.mul_le_mul_right _ hy
  have hcolor := Array.getElem?_eq_getElem hindex
  have hmem : (img.colors[y * img.size.width + x], y * img.size.width + x) ∈
      img.colors.toList.zipIdx :=
    List.mem_zipIdx_iff_getElem?.2 (Array.getElem?_toList.trans hcolor)
  have hpos : 0 < img.size.width := Nat.zero_lt_of_lt hx
  refine ⟨_, List.mem_map_of_mem hmem, ⟨?_, ?_⟩, rfl, hcolor⟩
  · simp [Nat.mod_eq_of_lt hx]
  · simp [Nat.mul_comm y, Nat.mul_add_div hpos, Nat.div_eq_of_lt hx]

/-- The dabs of an image in any order, on a clear pixel map of its size. -/
theorem ofImage_eq_dabs (img : StraightImage) {l : List Dab} (hl : l.Perm img.dabs) :
    Pixmap.ofImage img.size img.colors img.size_colors = (Pixmap.blank img.size).dabs l := by
  have hdab : ∀ d ∈ l, d.coverage = 255 ∧ 0 ≤ d.x ∧ 0 ≤ d.y := by
    intro d hd
    obtain ⟨a, -, rfl⟩ := List.mem_map.1 (hl.mem_iff.1 hd)
    exact ⟨rfl, Int.natCast_nonneg _, Int.natCast_nonneg _⟩
  have hapart : l.Pairwise fun d e => ∀ x y, d.At x y → ¬ e.At x y :=
    (hl.pairwise_iff fun h x y hat hat' => h x y hat' hat).2 img.pairwise_dabs
  have hsize : ((Pixmap.blank img.size).dabs l).size = img.size := Pixmap.size_dabs _ l
  refine Pixmap.ext_pixel? hsize.symm fun x y => ?_
  by_cases hin : x < img.size.width ∧ y < img.size.height
  · obtain ⟨d, hd, hat, hcoverage, hcolor⟩ := img.exists_mem_dabs hin.1 hin.2
    rw [Pixmap.pixel?_dabs_blank (fun e he => by rw [(hdab e he).1]; decide)
      (fun e he => (hdab e he).2) hapart (hl.mem_iff.2 hd) hat hin.1 hin.2]
    have hpixel : (Pixmap.ofImage img.size img.colors img.size_colors).pixel? x y =
        (img.colors[y * img.size.width + x]?).map (·.premultiplied 255) := by
      simp only [Color.premultiplied_full, ← Array.getElem?_map]
      exact if_pos hin
    rw [hpixel, hcolor, Option.map_some, Dab.source, hcoverage]
  · rw [Pixmap.pixel?, Pixmap.pixel?, hsize, if_neg hin]
    exact if_neg hin

theorem pixels_ofImage (img : StraightImage) :
    (Pixmap.ofImage img.size img.colors img.size_colors).pixels =
      img.colors.map (·.premultiplied 255) := by
  simp only [Color.premultiplied_full]
  rfl

/-- **An image is decoded to what its colors paint**, each once at full coverage, in any order, on
a blank pixel map of its size; neither is there when it cannot be allocated. -/
theorem decode_eq_dabs (img : StraightImage) {l : List Dab} (hl : l.Perm img.dabs) :
    (img.size.allocatable = true → ∃ blank p, Pixmap.blank? img.size = .ok blank ∧
      img.decode = .ok p ∧ p = blank.dabs l ∧
      p.pixels = img.colors.map (·.premultiplied 255) ∧ p.IsPremultiplied) ∧
    (img.size.allocatable = false → Pixmap.blank? img.size = .error (.allocation img.size) ∧
      ∃ fault, img.decode = .error (.picture fault)) := by
  refine ⟨fun hsize => ?_, fun hsize => ⟨by rw [Pixmap.blank?, hsize]; rfl, ?_⟩⟩
  · have hsides : ¬ (img.size.width = 0 ∨ img.size.height = 0) := by
      simp only [Size.allocatable, Bool.and_eq_true, bne_iff_ne] at hsize
      omega
    refine ⟨_, _, by rw [Pixmap.blank?, if_pos hsize], by rw [decode, if_neg hsides, if_pos hsize],
      img.ofImage_eq_dabs hl, img.pixels_ofImage, ?_⟩
    rw [img.ofImage_eq_dabs hl]
    exact (Pixmap.isPremultiplied_blank _).dabs l
  · unfold decode
    split
    · exact ⟨_, rfl⟩
    · rw [hsize]
      exact ⟨_, rfl⟩

/-- Four colors, one of them opaque and one without alpha, painted from the last one to the
first. -/
theorem decode_eq_dabs_backwards :
    let img : StraightImage := ⟨⟨2, 2⟩, #[⟨245, 131, 211, 194⟩, ⟨80, 33, 88, 255⟩,
      ⟨69, 193, 138, 0⟩, ⟨210, 148, 121, 35⟩], rfl⟩
    img.dabs.reverse.Perm img.dabs ∧ img.size.allocatable = true ∧
      ∃ p, img.decode = .ok p ∧ p = (Pixmap.blank ⟨2, 2⟩).dabs img.dabs.reverse ∧
        p.pixels = #[⟨186, 100, 161, 194⟩, ⟨80, 33, 88, 255⟩, ⟨0, 0, 0, 0⟩, ⟨29, 20, 17, 35⟩] ∧
        p.IsPremultiplied := by
  intro img
  have hperm : img.dabs.reverse.Perm img.dabs := List.reverse_perm _
  have hsize : img.size.allocatable = true := by decide
  obtain ⟨blank, p, hblank, hdecode, hp, hpixels, hvalid⟩ := (decode_eq_dabs img hperm).1 hsize
  obtain rfl := Except.ok.inj hblank
  refine ⟨hperm, hsize, p, hdecode, hp, ?_, hvalid⟩
  rw [hpixels]
  decide +kernel

end StraightImage
end DialogueSheet
