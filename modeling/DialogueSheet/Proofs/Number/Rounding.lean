/-
# How far rounding goes

A rounded quotient is off by at most half a unit in its last place: a small part of the
quotient or, near zero, half of the least unit of the format (`ofRatio_cases`).  It never
passes a number of the format (`exists_ofRatio_le`).
-/
import DialogueSheet.Number.Binary
import Mathlib.Algebra.Order.Field.Power
import Mathlib.Tactic.FieldSimp
import Mathlib.Tactic.Linarith
import Mathlib.Tactic.Positivity
import Mathlib.Tactic.Ring

namespace DialogueSheet

/-! ### Rounding to whole numbers -/

/-- The rounded quotient, told by what is left of the division. -/
theorem roundHalfEven_cases (num den : Nat) :
    (roundHalfEven num den = num / den ∧ 2 * (num % den) ≤ den) ∨
      (roundHalfEven num den = num / den + 1 ∧ den ≤ 2 * (num % den)) := by
  unfold roundHalfEven
  simp only
  split_ifs <;> omega

theorem roundHalfEven_le {num den n : Nat} (hden : 0 < den) (h : num ≤ n * den) :
    roundHalfEven num den ≤ n := by
  have hsplit := Nat.div_add_mod num den
  have hquot : num / den ≤ n := Nat.div_le_of_le_mul (by rwa [Nat.mul_comm])
  rcases roundHalfEven_cases num den with ⟨hround, -⟩ | ⟨hround, hhalf⟩
  · rwa [hround]
  · rw [hround, Nat.succ_le_iff]
    refine lt_of_le_of_ne hquot fun heq => ?_
    rw [heq, Nat.mul_comm] at hsplit
    omega

theorem abs_roundHalfEven_sub_le (num : Nat) {den : Nat} (hden : 0 < den) :
    |(roundHalfEven num den : ℚ) - num / den| ≤ 1 / 2 := by
  have hpos : (0 : ℚ) < den := by exact_mod_cast hden
  have hsplit : (num : ℚ) = den * (num / den : Nat) + (num % den : Nat) := by
    exact_mod_cast (Nat.div_add_mod num den).symm
  have hmod : ((num % den : Nat) : ℚ) < den := by exact_mod_cast Nat.mod_lt num hden
  have hquot : (num : ℚ) / den = (num / den : Nat) + ((num % den : Nat) : ℚ) / den := by
    rw [hsplit]
    field_simp
  rw [hquot, abs_le]
  rcases roundHalfEven_cases num den with ⟨hround, hhalf⟩ | ⟨hround, hhalf⟩
  · have hle : (2 : ℚ) * (num % den : Nat) ≤ den := by exact_mod_cast hhalf
    have hrest : ((num % den : Nat) : ℚ) / den ≤ 1 / 2 := by
      rw [div_le_iff₀ hpos]
      linarith
    have hnonneg : (0 : ℚ) ≤ ((num % den : Nat) : ℚ) / den := by positivity
    rw [hround]
    constructor <;> linarith
  · have hle : (den : ℚ) ≤ 2 * (num % den : Nat) := by exact_mod_cast hhalf
    have hrest : 1 / 2 ≤ ((num % den : Nat) : ℚ) / den := by
      rw [le_div_iff₀ hpos]
      linarith
    have hone : ((num % den : Nat) : ℚ) / den ≤ 1 := by
      rw [div_le_iff₀ hpos]
      linarith
    rw [hround, Nat.cast_add, Nat.cast_one]
    constructor <;> linarith

/-! ### Scaled quotients -/

/-- The number `m · 2 ^ e`. -/
def dyadic (m : Nat) (e : Int) : ℚ := m * 2 ^ e

theorem dyadic_nonneg (m : Nat) (e : Int) : 0 ≤ dyadic m e := by
  unfold dyadic
  positivity

theorem dyadic_le_dyadic {m n : Nat} (h : m ≤ n) (e : Int) : dyadic m e ≤ dyadic n e := by
  unfold dyadic
  gcongr

/-- A factor may move into the significand. -/
theorem dyadic_mul_two_pow (m k : Nat) (e : Int) : dyadic (m * 2 ^ k) e = dyadic m (e + k) := by
  simp only [dyadic, zpow_add₀ (two_ne_zero' ℚ), zpow_natCast, Nat.cast_mul, Nat.cast_pow,
    Nat.cast_ofNat]
  ring

theorem dyadic_two_pow (n : Nat) (e : Int) : dyadic (2 ^ n) e = 2 ^ ((n : Int) + e) := by
  rw [dyadic, Nat.cast_pow, Nat.cast_ofNat, zpow_add₀ two_ne_zero, zpow_natCast]

theorem two_zpow_eq_div (e : Int) : (2 : ℚ) ^ e = 2 ^ e.toNat / 2 ^ (-e).toNat := by
  rw [← zpow_natCast, ← zpow_natCast, ← zpow_sub₀ two_ne_zero]
  congr 1
  omega

theorem scaleDown_div (num den : Nat) (e : Int) :
    ((scaleDown num den e).1 : ℚ) / (scaleDown num den e).2 = num / den / 2 ^ e := by
  simp only [scaleDown, Nat.shiftLeft_eq, Nat.cast_mul, Nat.cast_pow, Nat.cast_ofNat,
    two_zpow_eq_div e]
  field_simp

theorem scaleDown_pos {den : Nat} (hden : 0 < den) (num : Nat) (e : Int) :
    0 < (scaleDown num den e).2 := by
  simp only [scaleDown, Nat.shiftLeft_eq]
  positivity

/-! ### The exponent of a quotient -/

theorem two_zpow_le_div {num den : Nat} (hnum : 0 < num) (hden : 0 < den) :
    (2 : ℚ) ^ ((num.log2 : Int) - den.log2 - 1) ≤ num / den := by
  have hlow : (2 : ℚ) ^ num.log2 ≤ num := by exact_mod_cast Nat.log2_self_le hnum.ne'
  have hhigh : (den : ℚ) ≤ 2 ^ (den.log2 + 1) := by exact_mod_cast Nat.lt_log2_self.le
  have hpos : (0 : ℚ) < den := by exact_mod_cast hden
  calc (2 : ℚ) ^ ((num.log2 : Int) - den.log2 - 1)
      = 2 ^ num.log2 / 2 ^ (den.log2 + 1) := by
        rw [← zpow_natCast, ← zpow_natCast, ← zpow_sub₀ two_ne_zero]
        congr 1
        push_cast
        ring
    _ ≤ num / den := by gcongr

theorem div_lt_two_zpow (num : Nat) {den : Nat} (hden : 0 < den) :
    (num : ℚ) / den < 2 ^ ((num.log2 : Int) - den.log2 + 1) := by
  have hlow : (2 : ℚ) ^ den.log2 ≤ den := by exact_mod_cast Nat.log2_self_le hden.ne'
  have hhigh : (num : ℚ) < 2 ^ (num.log2 + 1) := by exact_mod_cast Nat.lt_log2_self
  calc (num : ℚ) / den ≤ num / 2 ^ den.log2 := by gcongr
    _ < 2 ^ (num.log2 + 1) / 2 ^ den.log2 := by gcongr
    _ = 2 ^ ((num.log2 : Int) - den.log2 + 1) := by
        rw [← zpow_natCast, ← zpow_natCast, ← zpow_sub₀ two_ne_zero]
        congr 1
        push_cast
        ring

/-- The format has the number `n · 2 ^ k`. -/
structure BinaryFormat.Has (f : BinaryFormat) (n : Nat) (k : Int) : Prop where
  precision_pos : 0 < f.precision
  fits : n < 2 ^ f.precision
  least_le : f.minExponent ≤ k
  le_greatest : k ≤ f.maxExponent

/-- A number of the format that reaches `2 ^ a` has its last place less than the precision below. -/
theorem BinaryFormat.Has.lt_of_two_zpow_le {f : BinaryFormat} {n : Nat} {k a : Int}
    (h : f.Has n k) (hle : 2 ^ a ≤ dyadic n k) : a < f.precision + k := by
  have hfits := h.fits
  have hlt : dyadic n k < 2 ^ ((f.precision : Int) + k) := by
    rw [← dyadic_two_pow, dyadic, dyadic]
    gcongr
  exact (zpow_lt_zpow_iff_right₀ one_lt_two).1 (hle.trans_lt hlt)

namespace Binary

variable {f : BinaryFormat}

/-- The significand is filled at the exponent of a quotient, or it is the least exponent. -/
theorem exponentOf_spec {num den : Nat} (hnum : 0 < num) (hden : 0 < den) :
    f.minExponent ≤ exponentOf f num den ∧
      (num : ℚ) / den < 2 ^ ((f.precision : Int) + exponentOf f num den) ∧
      (exponentOf f num den = f.minExponent ∨
        2 ^ ((f.precision : Int) - 1 + exponentOf f num den) ≤ (num : ℚ) / den) := by
  set guess : Int := (num.log2 : Int) - den.log2 - f.precision with hguess
  have hd := scaleDown_pos hden num guess
  -- the guess is right or one too low
  obtain ⟨e, he, hlow, hhigh⟩ : ∃ e : Int, exponentOf f num den = max e f.minExponent ∧
      2 ^ ((f.precision : Int) - 1 + e) ≤ (num : ℚ) / den ∧
      (num : ℚ) / den < 2 ^ ((f.precision : Int) + e) := by
    have hfull : 1 <<< f.precision ≤ (scaleDown num den guess).1 / (scaleDown num den guess).2 ↔
        2 ^ ((f.precision : Int) + guess) ≤ (num : ℚ) / den := by
      rw [Nat.one_shiftLeft, Nat.le_div_iff_mul_le hd, zpow_add₀ two_ne_zero, zpow_natCast,
        ← le_div_iff₀ (by positivity), ← scaleDown_div, le_div_iff₀ (by exact_mod_cast hd)]
      exact_mod_cast Iff.rfl
    by_cases hcase : 1 <<< f.precision ≤
        (scaleDown num den guess).1 / (scaleDown num den guess).2
    · refine ⟨guess + 1, by simp only [exponentOf, ← hguess, if_pos hcase], ?_, ?_⟩
      · convert hfull.1 hcase using 2
        ring
      · convert div_lt_two_zpow num hden using 2
        rw [hguess]
        ring
    · refine ⟨guess, by simp only [exponentOf, ← hguess, if_neg hcase], ?_,
        lt_of_not_ge (mt hfull.2 hcase)⟩
      convert two_zpow_le_div hnum hden using 2
      rw [hguess]
      ring
  rw [he]
  refine ⟨le_max_right _ _, lt_of_lt_of_le hhigh ?_, ?_⟩
  · exact zpow_le_zpow_right₀ one_le_two (by have := le_max_left e f.minExponent; omega)
  · rcases le_total e f.minExponent with h | h
    · exact Or.inl (max_eq_right h)
    · rw [max_eq_left h]
      exact Or.inr hlow

/-! ### Rounded quotients -/

/-- The significand that a quotient is rounded to. -/
def significandOf (f : BinaryFormat) (num den : Nat) : Nat :=
  roundHalfEven (scaleDown num den (exponentOf f num den)).1
    (scaleDown num den (exponentOf f num den)).2

theorem ofRatio_eq_pack {num : Nat} (hnum : 0 < num) (negative : Bool) (den : Nat) :
    ofRatio negative num den =
      pack (f := f) negative (significandOf f num den) (exponentOf f num den) :=
  if_neg hnum.ne'

theorem abs_dyadic_significandOf_sub_le {num den : Nat} (hden : 0 < den) :
    |dyadic (significandOf f num den) (exponentOf f num den) - (num : ℚ) / den| ≤
      2 ^ (exponentOf f num den - 1) := by
  set e := exponentOf f num den with he
  have hpos : (0 : ℚ) < 2 ^ e := by positivity
  have hround := abs_roundHalfEven_sub_le (scaleDown num den e).1 (scaleDown_pos hden num e)
  rw [scaleDown_div] at hround
  calc |dyadic (significandOf f num den) e - (num : ℚ) / den|
      = |(significandOf f num den : ℚ) - num / den / 2 ^ e| * 2 ^ e := by
        rw [← abs_of_pos hpos, ← abs_mul, abs_of_pos hpos, dyadic, sub_mul,
          div_mul_cancel₀ _ hpos.ne']
    _ ≤ 1 / 2 * 2 ^ e := by
        gcongr
        exact hround
    _ = 2 ^ (e - 1) := by
        rw [zpow_sub_one₀ two_ne_zero]
        ring

theorem significandOf_le {num den n : Nat} (hden : 0 < den)
    (h : (num : ℚ) / den ≤ dyadic n (exponentOf f num den)) : significandOf f num den ≤ n := by
  have hpos := scaleDown_pos hden num (exponentOf f num den)
  refine roundHalfEven_le hpos ?_
  have hscaled : ((scaleDown num den (exponentOf f num den)).1 : ℚ) /
      (scaleDown num den (exponentOf f num den)).2 ≤ n := by
    rw [scaleDown_div, div_le_iff₀ (by positivity)]
    exact h
  rw [div_le_iff₀ (by exact_mod_cast hpos)] at hscaled
  exact_mod_cast hscaled

theorem significandOf_le_two_pow {num den : Nat} (hnum : 0 < num) (hden : 0 < den) :
    significandOf f num den ≤ 2 ^ f.precision := by
  refine significandOf_le hden ?_
  rw [dyadic_two_pow]
  exact (exponentOf_spec hnum hden).2.1.le

/-- A packed number is an infinity only when it lies beyond all numbers of the format. -/
theorem pack_cases (hp : 0 < f.precision) (negative : Bool) {m : Nat} {e : Int}
    (hm : m ≤ 2 ^ f.precision) :
    (pack (f := f) negative m e = .infinite negative ∧
      (f.maxExponent < e ∨ 2 ^ ((f.precision : Int) + f.maxExponent) ≤ dyadic m e)) ∨
    ∃ m' e', pack (f := f) negative m e = .finite negative m' e' ∧
      dyadic m' e' = dyadic m e ∧ dyadic m e ≤ 2 ^ ((f.precision : Int) + f.maxExponent) := by
  have hle : ∀ {k : Int}, k ≤ f.maxExponent →
      dyadic m k ≤ 2 ^ ((f.precision : Int) + f.maxExponent) := fun {k} hk =>
    calc dyadic m k ≤ dyadic (2 ^ f.precision) k := dyadic_le_dyadic hm k
      _ = 2 ^ ((f.precision : Int) + k) := dyadic_two_pow _ k
      _ ≤ 2 ^ ((f.precision : Int) + f.maxExponent) :=
        zpow_le_zpow_right₀ one_le_two (by omega)
  unfold pack
  simp only [Nat.one_shiftLeft]
  split_ifs with hfull hover hover
  · rw [hfull, dyadic_two_pow]
    exact Or.inl ⟨rfl, Or.inr (zpow_le_zpow_right₀ one_le_two (by omega))⟩
  · refine Or.inr ⟨_, _, rfl, ?_, hle (by omega)⟩
    rw [hfull, dyadic_two_pow, dyadic_two_pow]
    congr 1
    omega
  · exact Or.inl ⟨rfl, Or.inl hover⟩
  · exact Or.inr ⟨m, e, rfl, rfl, hle (by omega)⟩

/-- Half a unit in the last place is a small part of the quotient, or half the least unit. -/
theorem half_unit_le {num den : Nat} (hnum : 0 < num) (hden : 0 < den) :
    (2 : ℚ) ^ (exponentOf f num den - 1) ≤
      (num : ℚ) / den * 2 ^ (-(f.precision : Int)) + 2 ^ (f.minExponent - 1) := by
  obtain ⟨-, -, hleast | hfull⟩ := exponentOf_spec (f := f) hnum hden
  · rw [hleast]
    have hnonneg : (0 : ℚ) ≤ (num : ℚ) / den * 2 ^ (-(f.precision : Int)) := by positivity
    linarith
  · have hleast : (0 : ℚ) ≤ 2 ^ (f.minExponent - 1) := by positivity
    calc (2 : ℚ) ^ (exponentOf f num den - 1)
        = 2 ^ ((f.precision : Int) - 1 + exponentOf f num den) * 2 ^ (-(f.precision : Int)) := by
          rw [← zpow_add₀ two_ne_zero]
          congr 1
          ring
      _ ≤ (num : ℚ) / den * 2 ^ (-(f.precision : Int)) := by gcongr
      _ ≤ _ := by linarith

/-- **A rounded quotient** is infinite or off by half a unit in its last place at most. -/
theorem ofRatio_cases (hp : 0 < f.precision) (negative : Bool) (num : Nat) {den : Nat}
    (hden : 0 < den) :
    ofRatio (f := f) negative num den = .infinite negative ∨
      ∃ m e, ofRatio (f := f) negative num den = .finite negative m e ∧
        dyadic m e ≤ 2 ^ ((f.precision : Int) + f.maxExponent) ∧
        |dyadic m e - (num : ℚ) / den| ≤
          (num : ℚ) / den * 2 ^ (-(f.precision : Int)) + 2 ^ (f.minExponent - 1) := by
  rcases Nat.eq_zero_or_pos num with rfl | hnum
  · refine Or.inr ⟨0, f.minExponent, rfl, ?_, ?_⟩
    · simp only [dyadic, Nat.cast_zero, zero_mul]
      positivity
    · simp only [dyadic, Nat.cast_zero, zero_mul, zero_div, sub_zero, abs_zero, zero_add]
      positivity
  · rw [ofRatio_eq_pack hnum]
    rcases pack_cases hp negative (significandOf_le_two_pow hnum hden) with
      ⟨hpack, -⟩ | ⟨m, e, hpack, hvalue, hbound⟩
    · exact Or.inl hpack
    · refine Or.inr ⟨m, e, hpack, hvalue ▸ hbound, ?_⟩
      rw [hvalue]
      exact (abs_dyadic_significandOf_sub_le hden).trans (half_unit_le hnum hden)

/-- **Rounding never passes a number of the format.** -/
theorem exists_ofRatio_le (negative : Bool) {num den n : Nat} {k : Int} (hden : 0 < den)
    (hn : f.Has n k) (h : (num : ℚ) / den ≤ dyadic n k) :
    ∃ m e, ofRatio (f := f) negative num den = .finite negative m e ∧
      dyadic m e ≤ dyadic n k := by
  rcases Nat.eq_zero_or_pos num with rfl | hnum
  · refine ⟨0, f.minExponent, rfl, ?_⟩
    rw [dyadic, Nat.cast_zero, zero_mul]
    exact dyadic_nonneg n k
  have hmin := hn.least_le
  have hmax := hn.le_greatest
  set e := exponentOf f num den with he
  -- the last place of the quotient is not above that of the bound
  have hek : e ≤ k := by
    obtain ⟨-, -, hleast | hfull⟩ := exponentOf_spec (f := f) hnum hden
    · omega
    · have hlt := hn.lt_of_two_zpow_le (hfull.trans h)
      omega
  have hsame : dyadic (n * 2 ^ (k - e).toNat) e = dyadic n k := by
    rw [dyadic_mul_two_pow]
    congr 1
    omega
  have hm : significandOf f num den ≤ n * 2 ^ (k - e).toNat :=
    significandOf_le hden (by rw [← he, hsame]; exact h)
  have hvalue : dyadic (significandOf f num den) e ≤ dyadic n k :=
    (dyadic_le_dyadic hm e).trans_eq hsame
  rw [ofRatio_eq_pack hnum]
  rcases pack_cases (e := e) hn.precision_pos negative (significandOf_le_two_pow hnum hden) with
    ⟨-, hover | hover⟩ | ⟨m, e', hpack, hm', -⟩
  · omega
  · have hlt := hn.lt_of_two_zpow_le (hover.trans hvalue)
    omega
  · exact ⟨m, e', hpack, hm'.trans_le hvalue⟩

end Binary
end DialogueSheet
