/-
# A fitted picture stays in its box

A picture is fitted by a ratio that is itself rounded, so its scaled sides may come out a
little longer than the box.  What is too much is less than half a pixel, and rounding to
whole pixels takes it away, in every format with enough digits (`scaled_side_le`): for 64-bit
ratios (`fitSquare_le`) and for 32-bit ones (`fitWithin_le`).
-/
import DialogueSheet.Proofs.Number.Bounds
import DialogueSheet.Raster.Fit

namespace DialogueSheet

open Binary

/-- A format with enough digits for the sides of boxes, in which the greatest number times the
least is still small. -/
structure BinaryFormat.Fine (f : BinaryFormat) : Prop where
  digits : 24 ≤ f.precision
  least_le : f.minExponent ≤ -2
  le_greatest : 0 ≤ f.maxExponent
  room : (f.precision : Int) + f.maxExponent + (f.minExponent - 1) ≤ -3

theorem fine_single : BinaryFormat.single.Fine := ⟨by decide, by decide, by decide, by decide⟩

theorem fine_double : BinaryFormat.double.Fine := ⟨by decide, by decide, by decide, by decide⟩

namespace BinaryFormat.Fine

variable {f : BinaryFormat} (hf : f.Fine)
include hf

theorem has {n : Nat} {k : Int} (hn : n < 2 ^ 24) (hleast : -2 ≤ k) (hk : k ≤ 0) : f.Has n k :=
  have hprecision := hf.digits
  have hmin := hf.least_le
  have hmax := hf.le_greatest
  ⟨by omega, Nat.lt_of_lt_of_le hn (Nat.pow_le_pow_right two_pos hprecision), by omega, by omega⟩

theorem precision_pos : 0 < f.precision := Nat.lt_of_lt_of_le (by decide) hf.digits

/-- A rounding error is a small part of the number. -/
theorem part_le : (2 : ℚ) ^ (-(f.precision : Int)) ≤ 2 ^ (-24 : Int) := by
  have hprecision := hf.digits
  exact zpow_le_zpow_right₀ one_le_two (by omega)

/-- Half of the least number is small beside every number of the format. -/
theorem unit_le : (2 : ℚ) ^ ((f.precision : Int) + f.maxExponent) * 2 ^ (f.minExponent - 1) ≤
    1 / 8 := by
  rw [← zpow_add₀ two_ne_zero]
  exact (zpow_le_zpow_right₀ one_le_two hf.room).trans_eq (by norm_num)

theorem least_unit_le : (2 : ℚ) ^ (f.minExponent - 1) ≤ 1 / 8 := by
  have hmin := hf.least_le
  exact (zpow_le_zpow_right₀ one_le_two (by omega : f.minExponent - 1 ≤ -3)).trans_eq
    (by norm_num)

/-- A side of the box. -/
theorem exists_ofNat_le {n : Nat} (hn : n < 2 ^ 24) :
    ∃ m e, (ofNat n : Binary f) = .finite false m e ∧ dyadic m e ≤ n := by
  have hle : ((n : Nat) : ℚ) / (1 : Nat) ≤ dyadic n 0 := by simp [dyadic]
  obtain ⟨m, e, hfin, hvalue⟩ := exists_ofRatio_le (f := f) false Nat.one_pos
    (hf.has hn (by decide) (by decide)) hle
  exact ⟨m, e, hfin, by rwa [dyadic_zero] at hvalue⟩

/-- A side of a picture, which may be longer than any number that is told apart from the
next one. -/
theorem ofNat_cases {n : Nat} (hn : 0 < n) :
    (ofNat n : Binary f) = .infinite false ∨
      ∃ m e, (ofNat n : Binary f) = .finite false m e ∧ 1 / 2 ≤ dyadic m e ∧
        dyadic m e ≤ 2 ^ ((f.precision : Int) + f.maxExponent) := by
  rcases ofRatio_cases (f := f) hf.precision_pos false n Nat.one_pos with
    hinf | ⟨m, e, hfin, hbound, herror⟩
  · exact Or.inl hinf
  · refine Or.inr ⟨m, e, hfin, ?_, hbound⟩
    have hone : (1 : ℚ) ≤ n := by exact_mod_cast hn
    have hunit := hf.least_unit_le
    have hpart : (2 : ℚ) ^ (-(f.precision : Int)) ≤ 1 / 8 := hf.part_le.trans (by norm_num)
    rw [Nat.cast_one, div_one] at herror
    have hoff : (n : ℚ) * 2 ^ (-(f.precision : Int)) ≤ n * (1 / 8) := by gcongr
    have hlow := (abs_le.1 herror).1
    linarith

/-- The ratio of a side of the box to a side of a picture. -/
theorem exists_ratio {b : ℚ} {m n : Nat} {e k : Int} (hbox : dyadic m e ≤ b) (hb : b ≤ 2 ^ 20)
    (hside : 1 / 2 ≤ dyadic n k) :
    ∃ q r, (Binary.finite false m e : Binary f) / .finite false n k = .finite false q r ∧
      dyadic n k * dyadic q r ≤
        b + b * 2 ^ (-(f.precision : Int)) + dyadic n k * 2 ^ (f.minExponent - 1) := by
  have hpos : 0 < dyadic n k := by linarith
  have hn : n ≠ 0 := by
    rintro rfl
    simp [dyadic] at hpos
  obtain ⟨num, den, hden, hratio, hdiv⟩ := exists_div_eq_ofRatio (f := f) (m := m) hn e k
  rw [hdiv]
  rcases ofRatio_cases (f := f) hf.precision_pos false num hden with
    hinf | ⟨q, r, hfin, -, herror⟩
  · -- the ratio is not beyond twice the side of the box
    have hle : (num : ℚ) / den ≤ dyadic (2 ^ 21) 0 := by
      rw [hratio, dyadic_zero, div_le_iff₀ hpos]
      push_cast
      linarith
    obtain ⟨q, r, hfin, -⟩ := exists_ofRatio_le (f := f) false hden
      (hf.has (by decide) (by decide) (by decide)) hle
    rw [hinf] at hfin
    cases hfin
  · refine ⟨q, r, hfin, ?_⟩
    set part : ℚ := 2 ^ (-(f.precision : Int)) with hpart
    set unit : ℚ := 2 ^ (f.minExponent - 1) with hunit
    have hle : dyadic q r ≤ dyadic m e / dyadic n k +
        (dyadic m e / dyadic n k * part + unit) := by
      rw [hratio] at herror
      have hhigh := (abs_le.1 herror).2
      linarith
    have hcancel : dyadic n k * (dyadic m e / dyadic n k) = dyadic m e :=
      mul_div_cancel₀ _ hpos.ne'
    have hnonneg : 0 ≤ part := by positivity
    calc dyadic n k * dyadic q r
        ≤ dyadic n k * (dyadic m e / dyadic n k +
          (dyadic m e / dyadic n k * part + unit)) := by gcongr
      _ = dyadic n k * (dyadic m e / dyadic n k) +
          dyadic n k * (dyadic m e / dyadic n k) * part + dyadic n k * unit := by ring
      _ = dyadic m e + dyadic m e * part + dyadic n k * unit := by rw [hcancel]
      _ ≤ b + b * part + dyadic n k * unit := by gcongr

/-- A side that is scaled by no more than the ratio of the box to it is not longer than the
box in whole pixels. -/
theorem scaled_side_le {w side : Nat} {scale : Binary f} (hside : side ≤ 2 ^ 20)
    (hscale : ∀ b, 0 ≤ b → ((ofNat side : Binary f) / ofNat w).AtMost b →
      (ofNat side : Binary f) / ofNat w ≠ .nan → scale.AtMost b) :
    ((ofNat w : Binary f) * scale).round.toCount ≤ side := by
  -- a quarter of a pixel is left for rounding
  have hquarter : dyadic (4 * side + 1) (-2) = side + 1 / 4 := by
    rw [dyadic]
    push_cast
    norm_num
    ring
  suffices h : ((ofNat w : Binary f) * scale).AtMost (dyadic (4 * side + 1) (-2)) by
    have hhalf : dyadic (4 * side + 1) (-2) < side + 1 / 2 := by linarith
    exact (h.round hhalf (hf.has (by omega) (by decide) (by decide))).toCount_le (by linarith)
  rcases Nat.eq_zero_or_pos w with rfl | hw
  · exact (atMost_zero_mul scale).mono (dyadic_nonneg _ _)
  obtain ⟨m, e, hboxed, hbox⟩ := hf.exists_ofNat_le (n := side) (by omega)
  rw [hboxed] at hscale
  rcases hf.ofNat_cases hw with hw | ⟨n, k, hw, hhalf, hgreatest⟩
  · have hzero : (Binary.finite false m e : Binary f) / .infinite false = zero false := rfl
    rw [hw, hzero] at hscale
    rw [hw]
    exact atMost_infinite_mul (hscale 0 le_rfl (fun _ => by simp [dyadic]) (by simp [zero])) _
  · obtain ⟨q, r, hratio, hproduct⟩ := hf.exists_ratio hbox (by exact_mod_cast hside) hhalf
    rw [hw, hratio] at hscale
    rw [hw]
    refine AtMost.mul (hscale _ (dyadic_nonneg q r) (fun _ => le_rfl) (by simp))
      (hf.has (by omega) (by decide) (by decide)) (hproduct.trans ?_)
    have hpart : (side : ℚ) * 2 ^ (-(f.precision : Int)) ≤ 1 / 8 := by
      calc (side : ℚ) * 2 ^ (-(f.precision : Int)) ≤ 2 ^ 20 * 2 ^ (-24 : Int) :=
            mul_le_mul (by exact_mod_cast hside) hf.part_le (by positivity) (by positivity)
        _ ≤ 1 / 8 := by norm_num
    have hunit : dyadic n k * 2 ^ (f.minExponent - 1) ≤ 1 / 8 := by
      calc dyadic n k * 2 ^ (f.minExponent - 1)
          ≤ 2 ^ ((f.precision : Int) + f.maxExponent) * 2 ^ (f.minExponent - 1) := by gcongr
        _ ≤ 1 / 8 := hf.unit_le
    rw [hquarter]
    linarith

end BinaryFormat.Fine

namespace Size

/-- **A decoded picture stays in its square box.** -/
theorem fitSquare_le (s : Size) {side : Nat} (hpos : 0 < side) (hside : side ≤ 2 ^ 20) :
    (s.fitSquare side).width ≤ side ∧ (s.fitSquare side).height ≤ side := by
  refine ⟨max_le (fine_double.scaled_side_le hside fun b hb hratio hnum => ?_) hpos,
    max_le (fine_double.scaled_side_le hside fun b hb hratio hnum => ?_) hpos⟩
  · exact hratio.lesser_left hb hnum
  · exact hratio.lesser_right hb hnum

theorem fitSquare_pos (s : Size) (side : Nat) :
    0 < (s.fitSquare side).width ∧ 0 < (s.fitSquare side).height :=
  ⟨lt_max_of_lt_right Nat.one_pos, lt_max_of_lt_right Nat.one_pos⟩

/-- **A fitted picture stays in its box.** -/
theorem fitWithin_le (s : Size) {box : Size} (hwidth : 0 < box.width) (hheight : 0 < box.height)
    (hbox : max box.width box.height ≤ 2 ^ 20) :
    (s.fitWithin box).width ≤ box.width ∧ (s.fitWithin box).height ≤ box.height := by
  obtain ⟨hw, hh⟩ := max_le_iff.1 hbox
  unfold fitWithin
  split_ifs with hempty
  · exact ⟨max_le le_rfl hwidth, max_le le_rfl hheight⟩
  · refine ⟨max_le (fine_single.scaled_side_le hw fun b hb hratio hnum => ?_) hwidth,
      max_le (fine_single.scaled_side_le hh fun b hb hratio hnum => ?_) hheight⟩
    · exact hratio.lesser_left hb hnum
    · exact hratio.lesser_right hb hnum

end Size
end DialogueSheet
