/-
# Strokes inside their boxes

An outline is inset by half its stroke on each side.  What is written of it are 32-bit numbers,
each rounded once:

| outline | along a side `W` with a stroke `w` |
| --- | --- |
| rectangle | from `w / 2`, as long as `W - w / 2 * 2` |
| ellipse | around `W / 2`, with the radius `W / 2 - w / 2` |

Nothing in this holds the stroke to the box.  The lengths are negative exactly where the stroke is
wider than a side, however they are rounded; where it is not, no corner is rounder than half a
side, and the stroke stays in its box up to the rounding of one difference (`figure_contained`).
In whole pixels nothing is rounded at all (`proper_iff_of_pixels`).
-/
import DialogueSheet.Proofs.Number.Nearest
import DialogueSheet.Raster.Shape

namespace DialogueSheet

open Binary BinaryFormat

/-! ### 32-bit numbers -/

namespace Binary

theorem holds_unit {k : Nat} (hk : k ≤ 149) : BinaryFormat.single.Holds (1 / 2 ^ k) := by
  have hheld := holds_two_zpow (f := BinaryFormat.single) (k := -k) (by decide)
    (show (-149 : Int) ≤ -k by omega) (show -(k : Int) ≤ 104 by omega)
  rwa [zpow_neg, zpow_natCast, ← one_div] at hheld

theorem holds_natCast {n : Nat} (hn : n < 2 ^ 24) : BinaryFormat.single.Holds n := by
  refine ⟨n, 0, ⟨by decide, hn, by decide, by decide⟩, ?_⟩
  rw [dyadic_zero, Nat.abs_cast]

theorem isNumber_ofNat {n : Nat} (hn : n < 2 ^ 24) :
    (ofNat n : Binary32).IsNumber ∧ (ofNat n : Binary32).value = n :=
  have hround := rounds_ofNat (holds_natCast hn) le_rfl
  ⟨hround.isNumber, hround.value_eq (holds_natCast hn)⟩

theorem holds_half_natCast {n : Nat} (hn : n < 2 ^ 24) :
    BinaryFormat.single.Holds ((n : ℚ) / 2) := by
  refine ⟨n, -1, ⟨by decide, hn, by decide, by decide⟩, ?_⟩
  rw [abs_of_nonneg (by positivity), dyadic, zpow_neg_one, div_eq_mul_inv]

theorem isNumber_two : (2 : Binary32).IsNumber ∧ (2 : Binary32).value = 2 :=
  isNumber_ofNat (n := 2) (by decide)

theorem IsNumber.rounds_half {x : Binary32} (hx : x.IsNumber) :
    (x / 2).Rounds (x.value / 2) := by
  have hround := Rounds.div hx isNumber_two.1 hx.holds.abs (by rw [isNumber_two.2]; norm_num)
    (by
      rw [isNumber_two.2, abs_div, abs_two]
      linarith [abs_nonneg x.value])
  rwa [isNumber_two.2] at hround

/-- A number that is not next to zero is halved exactly. -/
theorem value_half {x : Binary32} (hx : x.IsNumber)
    (hlarge : x.value = 0 ∨ (2 : ℚ) ^ (-125 : Int) ≤ x.value) :
    (x / 2).value = x.value / 2 :=
  hx.rounds_half.value_eq (hx.holds.half (hlarge.imp_right fun h => h.trans (le_abs_self _)))

/-- A positive number is rounded up by a small part of it. -/
theorem Rounds.le_add {x : Binary32} {q : ℚ} (h : x.Rounds q) (hq : 0 ≤ q) :
    x.value ≤ q + q / 2 ^ 24 + 1 / 2 ^ 150 := by
  have herror := (abs_le.1 h.error_le).2
  have hpart : (2 : ℚ) ^ (-(BinaryFormat.single.precision : Int)) = 1 / 2 ^ 24 := by
    norm_num [BinaryFormat.single]
  have hunit : (2 : ℚ) ^ (BinaryFormat.single.minExponent - 1) = 1 / 2 ^ 150 := by
    norm_num [BinaryFormat.single]
  rw [abs_of_nonneg hq, hpart, hunit] at herror
  linarith

end Binary

/-! ### One side of a box -/

/-- A side of a box with a stroke at both ends. -/
structure Stroked (side stroke : Binary32) : Prop where
  side_isNumber : side.IsNumber
  one_le : 1 ≤ side.value
  stroke_isNumber : stroke.IsNumber
  nonneg : 0 ≤ stroke.value

/-- What is painted between the two ends of an outline, half a stroke beyond both, stays within a
side up to so much. -/
def Covered (first last stroke side slack : ℚ) : Prop :=
  -slack ≤ first - stroke / 2 ∧ last + stroke / 2 ≤ side + slack

namespace Stroked

variable {side stroke : Binary32} (h : Stroked side stroke)
include h

theorem inset_nonneg : 0 ≤ (stroke / 2).value :=
  h.stroke_isNumber.rounds_half.nonneg (div_nonneg h.nonneg two_pos.le)

/-- Only next to zero the half of a stroke is rounded. -/
theorem stroke_le_of_not_holds (hhalf : ¬ BinaryFormat.single.Holds (stroke.value / 2)) :
    stroke.value ≤ 1 / 2 ^ 30 := by
  by_contra hlarge
  refine hhalf (h.stroke_isNumber.holds.half (Or.inr ?_))
  calc (2 : ℚ) ^ (-125 : Int) ≤ 1 / 2 ^ 30 := by norm_num
    _ ≤ stroke.value := (not_le.1 hlarge).le
    _ ≤ |stroke.value| := le_abs_self _

theorem rounds_insets {c : ℚ} (hc : BinaryFormat.single.Holds c)
    (hle : (stroke / 2).value * 2 ≤ c) : (stroke / 2 * 2).Rounds ((stroke / 2).value * 2) := by
  have hnonneg := h.inset_nonneg
  have hround := Rounds.mul h.stroke_isNumber.rounds_half.isNumber isNumber_two.1 hc
  rw [isNumber_two.2] at hround
  exact hround (by rwa [abs_of_nonneg (by positivity)])

/-- Twice the half of a stroke is the stroke, when the half is not rounded. -/
theorem insets_of_holds (hhalf : BinaryFormat.single.Holds (stroke.value / 2)) :
    (stroke / 2).value = stroke.value / 2 ∧ (stroke / 2 * 2).Rounds stroke.value ∧
      (stroke / 2 * 2).value = stroke.value := by
  have hvalue := h.stroke_isNumber.rounds_half.value_eq hhalf
  have htwice : (stroke / 2).value * 2 = stroke.value := by
    rw [hvalue]
    ring
  have hround := h.rounds_insets h.stroke_isNumber.holds htwice.le
  rw [htwice] at hround
  exact ⟨hvalue, hround, hround.value_eq h.stroke_isNumber.holds⟩

/-- Twice the inset is the stroke, or all are next to zero. -/
theorem insets_cases :
    (stroke / 2 * 2).IsNumber ∧ 0 ≤ (stroke / 2 * 2).value ∧
      (((stroke / 2).value = stroke.value / 2 ∧ (stroke / 2 * 2).value = stroke.value) ∨
        (stroke.value ≤ 1 / 2 ^ 30 ∧ (stroke / 2).value ≤ 1 / 2 ^ 31 ∧
          (stroke / 2 * 2).value ≤ 1 / 2 ^ 30)) := by
  by_cases hhalf : BinaryFormat.single.Holds (stroke.value / 2)
  · obtain ⟨hinset, hround, hinsets⟩ := h.insets_of_holds hhalf
    exact ⟨hround.isNumber, hround.nonneg h.nonneg, Or.inl ⟨hinset, hinsets⟩⟩
  · have hsmall := h.stroke_le_of_not_holds hhalf
    have hinset : (stroke / 2).value ≤ 1 / 2 ^ 31 :=
      h.stroke_isNumber.rounds_half.le_of_le (holds_unit (k := 31) (by decide)) (by linarith)
    have hunit : BinaryFormat.single.Holds (1 / 2 ^ 30) := holds_unit (by decide)
    have hround := h.rounds_insets hunit (by linarith)
    have hnonneg := h.inset_nonneg
    exact ⟨hround.isNumber, hround.nonneg (by positivity), Or.inr ⟨hsmall, hinset,
      hround.le_of_le hunit (by linarith)⟩⟩

theorem value_half_side : (side / 2).value = side.value / 2 :=
  value_half h.side_isNumber (Or.inr (le_trans (by norm_num) h.one_le))

/-- The length between the insets. -/
theorem rounds_inner : (side - stroke / 2 * 2).Rounds (side.value - (stroke / 2 * 2).value) := by
  obtain ⟨hnumber, hnonneg, -⟩ := h.insets_cases
  exact Rounds.sub_of_nonneg h.side_isNumber hnumber (zero_le_one.trans h.one_le) hnonneg

/-- The radius along the side. -/
theorem rounds_radius : (side / 2 - stroke / 2).Rounds (side.value / 2 - (stroke / 2).value) := by
  have hside := h.side_isNumber.rounds_half
  have hpos := hside.nonneg (div_nonneg (zero_le_one.trans h.one_le) two_pos.le)
  rw [← h.value_half_side]
  exact Rounds.sub_of_nonneg hside.isNumber h.stroke_isNumber.rounds_half.isNumber hpos
    h.inset_nonneg

/-! The lengths are negative exactly under a stroke that is wider than the side. -/

theorem inner_nonneg_iff : 0 ≤ (side - stroke / 2 * 2).value ↔ stroke.value ≤ side.value := by
  obtain ⟨hnumber, -, hcases⟩ := h.insets_cases
  rw [h.rounds_inner.nonneg_iff_le h.side_isNumber.holds hnumber.holds]
  rcases hcases with ⟨-, heq⟩ | ⟨hstroke, -, hinsets⟩
  · rw [heq]
  · have hone : 1 / 2 ^ 30 ≤ side.value := le_trans (by norm_num) h.one_le
    exact iff_of_true (hinsets.trans hone) (hstroke.trans hone)

theorem radius_nonneg_iff : 0 ≤ (side / 2 - stroke / 2).value ↔ stroke.value ≤ side.value := by
  have hside := h.side_isNumber.rounds_half.isNumber.holds
  rw [h.value_half_side] at hside
  rw [h.rounds_radius.nonneg_iff_le hside h.stroke_isNumber.rounds_half.isNumber.holds]
  obtain ⟨-, -, ⟨heq, -⟩ | ⟨hstroke, hinset, -⟩⟩ := h.insets_cases
  · rw [heq]
    exact div_le_div_iff_of_pos_right two_pos
  · have hone := h.one_le
    exact iff_of_true (by linarith) (by linarith)

/-! Under a stroke that is not wider, nothing is off by more than one rounding. -/

/-- The length between the insets is nothing or not next to zero. -/
theorem inner_cases (hfits : stroke.value ≤ side.value) :
    (side - stroke / 2 * 2).value = 0 ∨
      (2 : ℚ) ^ (-125 : Int) ≤ (side - stroke / 2 * 2).value := by
  obtain ⟨hnumber, -, -⟩ := h.insets_cases
  have hround := h.rounds_inner
  have hone := h.one_le
  have hlarge : (stroke / 2 * 2).value + 1 / 2 ^ 24 ≤ side.value →
      (2 : ℚ) ^ (-125 : Int) ≤ (side - stroke / 2 * 2).value := fun hle =>
    calc (2 : ℚ) ^ (-125 : Int) ≤ 1 / 2 ^ 24 := by norm_num
      _ ≤ (side - stroke / 2 * 2).value := hround.le_of_ge (holds_unit (by decide)) (by linarith)
  rcases le_total (stroke / 2 * 2).value (1 / 2) with hsmall | hbig
  · exact Or.inr (hlarge (by linarith))
  · -- both are multiples of the last place of numbers from a half on
    have hgrid : ∀ {x : Binary32}, x.IsNumber → 1 / 2 ≤ x.value → OnGrid (-24) x.value :=
      fun hx hle => hx.holds.onGrid (Or.inr (by
        rw [abs_of_nonneg (by linarith)]
        exact le_trans (by norm_num [BinaryFormat.single]) hle))
    have hle : (stroke / 2 * 2).value ≤ side.value :=
      (hround.nonneg_iff_le h.side_isNumber.holds hnumber.holds).1 (h.inner_nonneg_iff.2 hfits)
    rcases hle.eq_or_lt with heq | hlt
    · rw [heq, sub_self] at hround
      exact Or.inl (hround.value_eq hnumber.holds.zero)
    · have hapart := (hgrid hnumber hbig).add_le (hgrid h.side_isNumber (by linarith)) hlt
      exact Or.inr (hlarge (by rwa [zpow_neg, ← one_div] at hapart))

/-- The stroke of a rectangle. -/
theorem rect_covered (hfits : stroke.value ≤ side.value) :
    Covered (stroke / 2).value ((stroke / 2).value + (side - stroke / 2 * 2).value) stroke.value
      side.value (side.value / 2 ^ 23) := by
  obtain ⟨-, hnonneg, ⟨hinset, hinsets⟩ | ⟨hstroke, hinset, -⟩⟩ := h.insets_cases
  · have hround := h.rounds_inner
    rw [hinsets] at hround
    have hle := hround.le_add (sub_nonneg.2 hfits)
    have hone := h.one_le
    have hpos := h.nonneg
    rw [Covered, hinset]
    constructor <;> linarith
  · -- what is next to zero does not make the length more than the side
    have hle := h.rounds_inner.le_of_le h.side_isNumber.holds (by linarith)
    have hone := h.one_le
    have hinset' := h.inset_nonneg
    constructor <;> linarith

/-- The stroke of an ellipse. -/
theorem ellipse_covered (hfits : stroke.value ≤ side.value) :
    Covered ((side / 2).value - (side / 2 - stroke / 2).value)
      ((side / 2).value + (side / 2 - stroke / 2).value) stroke.value
      side.value (side.value / 2 ^ 23) := by
  have hround := h.rounds_radius
  have hone := h.one_le
  rw [Covered, h.value_half_side]
  obtain ⟨-, -, ⟨hinset, -⟩ | ⟨hstroke, -, -⟩⟩ := h.insets_cases
  · rw [hinset] at hround
    have hle := hround.le_add (by linarith)
    have hpos := h.nonneg
    constructor <;> linarith
  · have hhalf := h.side_isNumber.rounds_half.isNumber.holds
    rw [h.value_half_side] at hhalf
    have hle := hround.le_of_le hhalf (by linarith [h.inset_nonneg])
    constructor <;> linarith

/-! Where nothing is rounded, nothing is off. -/

section Exact

variable (hhalf : BinaryFormat.single.Holds (stroke.value / 2))
  (hinner : BinaryFormat.single.Holds (side.value - stroke.value))
include hhalf hinner

theorem value_inner_of_holds : (side - stroke / 2 * 2).value = side.value - stroke.value := by
  have hround := h.rounds_inner
  rw [(h.insets_of_holds hhalf).2.2] at hround
  exact hround.value_eq hinner

theorem rect_covered_of_holds :
    Covered (stroke / 2).value ((stroke / 2).value + (side - stroke / 2 * 2).value) stroke.value
      side.value 0 := by
  rw [Covered, h.value_inner_of_holds hhalf hinner, (h.insets_of_holds hhalf).1]
  constructor <;> linarith

theorem ellipse_covered_of_holds (hfits : stroke.value ≤ side.value) :
    Covered ((side / 2).value - (side / 2 - stroke / 2).value)
      ((side / 2).value + (side / 2 - stroke / 2).value) stroke.value side.value 0 := by
  have hround := h.rounds_radius
  have hcases := h.inner_cases hfits
  have hlarge := hcases.imp_right fun hle => hle.trans (le_abs_self _)
  rw [h.value_inner_of_holds hhalf hinner] at hlarge
  have hradius : side.value / 2 - stroke.value / 2 = (side.value - stroke.value) / 2 := by ring
  rw [(h.insets_of_holds hhalf).1, hradius] at hround
  rw [Covered, h.value_half_side, hround.value_eq (hinner.half hlarge)]
  constructor <;> linarith

end Exact

end Stroked

/-! ### Outlines -/

/-- What is written of an outline that is no polygon. -/
inductive Figure where
  | rect (x y width height : Binary32) (radius : Option Binary32)
  | ellipse (cx cy rx ry : Binary32)

namespace Figure

/-- The element, with the attributes of its fill and its stroke. -/
def element (g : Figure) (paint : String) : String :=
  match g with
  | .rect x y width height radius =>
    "<rect" ++ Shape.numberAttribute "x" x ++ Shape.numberAttribute "y" y
      ++ Shape.numberAttribute "width" width ++ Shape.numberAttribute "height" height
      ++ (match radius with
        | some r => Shape.numberAttribute "rx" r ++ Shape.numberAttribute "ry" r
        | none => "")
      ++ paint ++ "/>"
  | .ellipse cx cy rx ry =>
    "<ellipse" ++ Shape.numberAttribute "cx" cx ++ Shape.numberAttribute "cy" cy
      ++ Shape.numberAttribute "rx" rx ++ Shape.numberAttribute "ry" ry ++ paint ++ "/>"

/-- The numbers in it. -/
def numbers : Figure → List Binary32
  | .rect x y width height radius => [x, y, width, height] ++ radius.toList
  | .ellipse cx cy rx ry => [cx, cy, rx, ry]

/-- No length is negative, and no corner is rounder than half a side. -/
def Proper : Figure → Prop
  | .rect _ _ width height radius =>
    0 ≤ width.value ∧ 0 ≤ height.value ∧
      ∀ r ∈ radius, 0 ≤ r.value ∧ r.value ≤ width.value / 2 ∧ r.value ≤ height.value / 2
  | .ellipse _ _ rx ry => 0 ≤ rx.value ∧ 0 ≤ ry.value

/-- A stroke along the outline stays inside a box of this width and height, up to a part of
them. -/
def Inside (g : Figure) (stroke width height part : ℚ) : Prop :=
  match g with
  | .rect x y w h _ =>
    Covered x.value (x.value + w.value) stroke width (width * part) ∧
      Covered y.value (y.value + h.value) stroke height (height * part)
  | .ellipse cx cy rx ry =>
    Covered (cx.value - rx.value) (cx.value + rx.value) stroke width (width * part) ∧
      Covered (cy.value - ry.value) (cy.value + ry.value) stroke height (height * part)

end Figure

namespace Shape

/-- What is written of the outline of a shape. -/
def figure? (s : Shape) : Option Figure :=
  match s.outline with
  | .rect => some (.rect s.inset s.inset s.innerWidth s.innerHeight none)
  | .rounded radius =>
    some (.rect s.inset s.inset s.innerWidth s.innerHeight (some (s.cornerRadius radius)))
  | .ellipse =>
    some (.ellipse (s.boxWidth / 2) (s.boxHeight / 2) s.ellipseRadii.1 s.ellipseRadii.2)
  | .polygon _ => none

theorem element_eq {s : Shape} {g : Figure} (hg : s.figure? = some g) :
    s.element = g.element s.paintAttributes := by
  cases houtline : s.outline with
  | polygon points => simp [figure?, houtline] at hg
  | _ =>
    simp only [figure?, houtline, Option.some.injEq] at hg
    subst hg
    simp [element, houtline, Figure.element, rectAttributes, String.append_assoc]

/-- The width of the stroke, nothing without one. -/
def strokeWidth (s : Shape) : Binary32 :=
  match s.stroke with
  | some stroke => stroke.width
  | none => 0

theorem inset_eq (s : Shape) : s.inset = s.strokeWidth / 2 := by
  cases hstroke : s.stroke with
  | some stroke => simp only [inset, strokeWidth, hstroke]
  | none =>
    simp only [inset, strokeWidth, hstroke]
    decide +kernel

/-- What is written, by the sides of the box and the width of the stroke. -/
theorem figure?_cases {s : Shape} {g : Figure} (hg : s.figure? = some g) :
    (∃ radius : Option Binary32,
      g = .rect (s.strokeWidth / 2) (s.strokeWidth / 2) (s.boxWidth - s.strokeWidth / 2 * 2)
        (s.boxHeight - s.strokeWidth / 2 * 2) (radius.map s.cornerRadius)) ∨
      g = .ellipse (s.boxWidth / 2) (s.boxHeight / 2) (s.boxWidth / 2 - s.strokeWidth / 2)
        (s.boxHeight / 2 - s.strokeWidth / 2) := by
  rw [← inset_eq]
  cases houtline : s.outline with
  | polygon points => simp [figure?, houtline] at hg
  | rect =>
    simp only [figure?, houtline, Option.some.injEq] at hg
    exact Or.inl ⟨none, hg.symm⟩
  | rounded radius =>
    simp only [figure?, houtline, Option.some.injEq] at hg
    exact Or.inl ⟨some radius, hg.symm⟩
  | ellipse =>
    simp only [figure?, houtline, Option.some.injEq] at hg
    exact Or.inr hg.symm

/-- The stroke is not wider than a side of the box. -/
def StrokeFits (s : Shape) : Prop :=
  s.strokeWidth.value ≤ s.boxWidth.value ∧ s.strokeWidth.value ≤ s.boxHeight.value

theorem stroked {stroke : Binary32} (hnumber : stroke.IsNumber) (hnonneg : 0 ≤ stroke.value)
    {n : Nat} (hn : n ≤ maxCount) : Stroked (Binary.ofNat (max n 1)) stroke := by
  have hbound : BinaryFormat.single.Holds (2 ^ (32 : Int)) :=
    holds_two_zpow (by decide) (by decide) (by decide)
  have hle : ((max n 1 : Nat) : ℚ) ≤ 2 ^ (32 : Int) := by
    have hmax : max n 1 ≤ 2 ^ 32 := max_le (hn.trans (by decide)) (by decide)
    exact_mod_cast hmax
  have hround := rounds_ofNat hbound hle
  have hone : BinaryFormat.single.Holds 1 := by simpa using holds_unit (k := 0) (by decide)
  have hpos : (1 : ℚ) ≤ (max n 1 : Nat) := by exact_mod_cast le_max_right n 1
  exact ⟨hround.isNumber, hround.le_of_ge hone hpos, hnumber, hnonneg⟩

section Contained

variable {s : Shape} (hwidth : Stroked s.boxWidth s.strokeWidth)
  (hheight : Stroked s.boxHeight s.strokeWidth)
include hwidth hheight

/-- A corner is round by a finite number, not negative and not above half of a side. -/
theorem cornerRadius_spec (radius : Binary32) :
    (s.cornerRadius radius).IsFinite ∧ 0 ≤ (s.cornerRadius radius).value ∧
      (s.StrokeFits →
        (s.cornerRadius radius).value ≤ (s.boxWidth - s.strokeWidth / 2 * 2).value / 2 ∧
        (s.cornerRadius radius).value ≤ (s.boxHeight - s.strokeWidth / 2 * 2).value / 2) := by
  have hw := hwidth.rounds_inner.isNumber
  have hh := hheight.rounds_inner.isNumber
  obtain ⟨hfinite, hnonneg, hleft, hright⟩ :=
    held_spec radius hw.rounds_half.isNumber.isFinite hh.rounds_half.isNumber.isFinite
  rw [cornerRadius, innerWidth, innerHeight, inset_eq]
  refine ⟨hfinite, hnonneg, fun hfits => ?_⟩
  rw [← value_half hw (hwidth.inner_cases hfits.1), ← value_half hh (hheight.inner_cases hfits.2)]
  exact ⟨hleft (hw.rounds_half.nonneg (div_nonneg (hwidth.inner_nonneg_iff.2 hfits.1) two_pos.le)),
    hright (hh.rounds_half.nonneg (div_nonneg (hheight.inner_nonneg_iff.2 hfits.2) two_pos.le))⟩

variable {g : Figure} (hg : s.figure? = some g)
include hg

theorem isFinite_of_mem_numbers : ∀ x ∈ g.numbers, x.IsFinite := by
  have hinset := hwidth.stroke_isNumber.rounds_half.isNumber.isFinite
  intro x hx
  rcases figure?_cases hg with ⟨radius, rfl⟩ | rfl
  · simp only [Figure.numbers, List.mem_append, List.mem_cons, List.not_mem_nil, or_false,
      Option.mem_toList] at hx
    rcases hx with (rfl | rfl | rfl | rfl) | hr
    · exact hinset
    · exact hinset
    · exact hwidth.rounds_inner.isNumber.isFinite
    · exact hheight.rounds_inner.isNumber.isFinite
    · obtain ⟨r, -, rfl⟩ := Option.mem_map.1 hr
      exact (cornerRadius_spec hwidth hheight r).1
  · simp only [Figure.numbers, List.mem_cons, List.not_mem_nil, or_false] at hx
    rcases hx with rfl | rfl | rfl | rfl
    · exact hwidth.side_isNumber.rounds_half.isNumber.isFinite
    · exact hheight.side_isNumber.rounds_half.isNumber.isFinite
    · exact hwidth.rounds_radius.isNumber.isFinite
    · exact hheight.rounds_radius.isNumber.isFinite

theorem proper_iff : g.Proper ↔ s.StrokeFits := by
  rcases figure?_cases hg with ⟨radius, rfl⟩ | rfl
  · rw [StrokeFits, ← hwidth.inner_nonneg_iff, ← hheight.inner_nonneg_iff]
    refine ⟨fun ⟨hw, hh, _⟩ => ⟨hw, hh⟩, fun ⟨hw, hh⟩ => ⟨hw, hh, fun r hr => ?_⟩⟩
    obtain ⟨r, -, rfl⟩ := Option.mem_map.1 hr
    obtain ⟨-, hnonneg, hle⟩ := cornerRadius_spec hwidth hheight r
    exact ⟨hnonneg, hle ⟨hwidth.inner_nonneg_iff.1 hw, hheight.inner_nonneg_iff.1 hh⟩⟩
  · rw [StrokeFits, ← hwidth.radius_nonneg_iff, ← hheight.radius_nonneg_iff]
    exact Iff.rfl

theorem inside (hfits : s.StrokeFits) :
    g.Inside s.strokeWidth.value s.boxWidth.value s.boxHeight.value (1 / 2 ^ 23) := by
  rcases figure?_cases hg with ⟨radius, rfl⟩ | rfl
  · simp only [Figure.Inside, mul_one_div]
    exact ⟨hwidth.rect_covered hfits.1, hheight.rect_covered hfits.2⟩
  · simp only [Figure.Inside, mul_one_div]
    exact ⟨hwidth.ellipse_covered hfits.1, hheight.ellipse_covered hfits.2⟩

theorem inside_of_holds (hfits : s.StrokeFits)
    (hhalf : BinaryFormat.single.Holds (s.strokeWidth.value / 2))
    (hw : BinaryFormat.single.Holds (s.boxWidth.value - s.strokeWidth.value))
    (hh : BinaryFormat.single.Holds (s.boxHeight.value - s.strokeWidth.value)) :
    g.Inside s.strokeWidth.value s.boxWidth.value s.boxHeight.value 0 := by
  rcases figure?_cases hg with ⟨radius, rfl⟩ | rfl
  · simp only [Figure.Inside, mul_zero]
    exact ⟨hwidth.rect_covered_of_holds hhalf hw, hheight.rect_covered_of_holds hhalf hh⟩
  · simp only [Figure.Inside, mul_zero]
    exact ⟨hwidth.ellipse_covered_of_holds hhalf hw hfits.1,
      hheight.ellipse_covered_of_holds hhalf hh hfits.2⟩

end Contained

/-- **Where the stroke is, and where it is not.**  All numbers written are finite.  The lengths
are not negative and the corners not rounder than half a side exactly when the stroke is not wider
than a side of the box.  Then the stroke stays inside the box up to the rounding of a length, and
exactly where none is rounded. -/
theorem figure_contained (s : Shape) (hsize : max s.size.width s.size.height ≤ maxCount)
    (hnumber : s.strokeWidth.IsNumber) (hnonneg : 0 ≤ s.strokeWidth.value) {g : Figure}
    (hg : s.figure? = some g) :
    s.element = g.element s.paintAttributes ∧
      (∀ x ∈ g.numbers, x.IsFinite) ∧
      (g.Proper ↔ s.StrokeFits) ∧
      (s.StrokeFits →
        g.Inside s.strokeWidth.value s.boxWidth.value s.boxHeight.value (1 / 2 ^ 23) ∧
        (BinaryFormat.single.Holds (s.strokeWidth.value / 2) →
          BinaryFormat.single.Holds (s.boxWidth.value - s.strokeWidth.value) →
          BinaryFormat.single.Holds (s.boxHeight.value - s.strokeWidth.value) →
          g.Inside s.strokeWidth.value s.boxWidth.value s.boxHeight.value 0)) := by
  obtain ⟨hw, hh⟩ := max_le_iff.1 hsize
  have hwidth := stroked hnumber hnonneg hw
  have hheight := stroked hnumber hnonneg hh
  exact ⟨element_eq hg, isFinite_of_mem_numbers hwidth hheight hg, proper_iff hwidth hheight hg,
    fun hfits => ⟨inside hwidth hheight hg hfits, inside_of_holds hwidth hheight hg hfits⟩⟩

theorem figure_contained_of_rounded :
    let s := (Shape.rounded 8 6 3 ⟨0, 0, 0, 255⟩).withStroke ⟨0, 0, 0, 255⟩ 2
    max s.size.width s.size.height ≤ maxCount ∧ s.strokeWidth.IsNumber ∧
      0 ≤ s.strokeWidth.value ∧
      ∃ g, s.figure? = some g ∧ s.element = g.element s.paintAttributes ∧ g.Proper ∧
        g.Inside 2 8 6 0 := by
  intro s
  have hvalue : s.strokeWidth.value = 2 := isNumber_two.2
  have hwidth : s.boxWidth.value = 8 := (isNumber_ofNat (n := 8) (by decide)).2
  have hheight : s.boxHeight.value = 6 := (isNumber_ofNat (n := 6) (by decide)).2
  have hnonneg : 0 ≤ s.strokeWidth.value := hvalue ▸ two_pos.le
  have hfits : s.StrokeFits := by
    rw [StrokeFits, hvalue, hwidth, hheight]
    norm_num
  obtain ⟨helement, -, hproper, hinside⟩ :=
    figure_contained s (by decide) isNumber_two.1 hnonneg rfl
  have hexact := (hinside hfits).2
  rw [hvalue, hwidth, hheight] at hexact
  refine ⟨by decide, isNumber_two.1, hnonneg, _, rfl, helement, hproper.2 hfits, hexact ?_ ?_ ?_⟩
  · exact holds_half_natCast (n := 2) (by decide)
  · norm_num
    exact holds_natCast (n := 6) (by decide)
  · norm_num
    exact holds_natCast (n := 4) (by decide)

/-- **Whole pixels.**  A stroke of `k` pixels along a box of whole pixels stays inside the box
exactly when no side is shorter than `k` pixels. -/
theorem proper_iff_of_pixels {s : Shape} {g : Figure} (hg : s.figure? = some g) {k : Nat}
    (hstroke : s.strokeWidth = Binary.ofNat k) (hk : k < 2 ^ 24)
    (hw : s.drawnSize.width < 2 ^ 24) (hh : s.drawnSize.height < 2 ^ 24) :
    (g.Proper ↔ k ≤ s.drawnSize.width ∧ k ≤ s.drawnSize.height) ∧
      (g.Proper → g.Inside k s.drawnSize.width s.drawnSize.height 0) := by
  obtain ⟨hnumber, hvalue⟩ := isNumber_ofNat hk
  rw [← hstroke] at hnumber hvalue
  have hwidth : s.boxWidth.value = s.drawnSize.width := (isNumber_ofNat hw).2
  have hheight : s.boxHeight.value = s.drawnSize.height := (isNumber_ofNat hh).2
  have hnonneg : 0 ≤ s.strokeWidth.value := hvalue ▸ Nat.cast_nonneg k
  have hcount : 2 ^ 24 ≤ maxCount := by decide
  have hacross : Stroked s.boxWidth s.strokeWidth :=
    stroked hnumber hnonneg ((le_max_left _ 1).trans (hw.le.trans hcount))
  have hdown : Stroked s.boxHeight s.strokeWidth :=
    stroked hnumber hnonneg ((le_max_left _ 1).trans (hh.le.trans hcount))
  have hproper := proper_iff hacross hdown hg
  have hfits : s.StrokeFits ↔ k ≤ s.drawnSize.width ∧ k ≤ s.drawnSize.height := by
    rw [StrokeFits, hvalue, hwidth, hheight, Nat.cast_le, Nat.cast_le]
  refine ⟨hproper.trans hfits, fun h => ?_⟩
  obtain ⟨hkw, hkh⟩ := hfits.1 (hproper.1 h)
  have hinside := inside_of_holds hacross hdown hg (hproper.1 h)
  rw [hvalue, hwidth, hheight, ← Nat.cast_sub hkw, ← Nat.cast_sub hkh] at hinside
  exact hinside (holds_half_natCast hk) (holds_natCast (by omega)) (holds_natCast (by omega))

end Shape

end DialogueSheet
