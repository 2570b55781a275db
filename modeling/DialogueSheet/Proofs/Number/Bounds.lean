/-
# Bounds that survive rounding

`x.AtMost b` says that `x` is not above `b`: it is at most `b`, or negative, or no number.
The operations keep such bounds, also for infinities and where no number comes out; a bound
only has to leave room for rounding where it is no number of the format itself.
-/
import DialogueSheet.Proofs.Number.Rounding
import Mathlib.Data.Nat.Cast.Order.Field

namespace DialogueSheet

theorem dyadic_zero (n : Nat) : dyadic n 0 = n := by
  rw [dyadic, zpow_zero, mul_one]

theorem dyadic_mul_dyadic (m n : Nat) (e k : Int) :
    dyadic m e * dyadic n k = dyadic (m * n) (e + k) := by
  rw [dyadic, dyadic, dyadic, zpow_add₀ two_ne_zero, Nat.cast_mul]
  ring

/-- What `ofScaled` rounds is the number `n · 2 ^ e`. -/
theorem shiftLeft_div_shiftLeft (n : Nat) (e : Int) :
    ((n <<< e.toNat : Nat) : ℚ) / (1 <<< (-e).toNat : Nat) = dyadic n e := by
  rw [Nat.shiftLeft_eq, Nat.one_shiftLeft, dyadic, two_zpow_eq_div]
  push_cast
  ring

/-- What a quotient of finite numbers rounds. -/
theorem shiftLeft_div_shiftLeft_sub (m n : Nat) (e k : Int) :
    ((m <<< (e - k).toNat : Nat) : ℚ) / (n <<< (k - e).toNat : Nat) = dyadic m e / dyadic n k := by
  have hscale := two_zpow_eq_div (e - k)
  rw [neg_sub, zpow_sub₀ two_ne_zero] at hscale
  rw [dyadic, dyadic, mul_div_mul_comm, hscale, Nat.shiftLeft_eq, Nat.shiftLeft_eq]
  push_cast
  exact mul_div_mul_comm ..

theorem one_shiftLeft_pos (k : Nat) : 0 < 1 <<< k := by
  rw [Nat.one_shiftLeft]
  positivity

namespace Binary

variable {f : BinaryFormat}

/-- A number that is at most `b`, or negative, or none. -/
def AtMost (b : ℚ) : Binary f → Prop
  | .nan => True
  | .infinite negative => negative = true
  | .finite negative m e => negative = false → dyadic m e ≤ b

theorem AtMost.mono {x : Binary f} {b c : ℚ} (h : x.AtMost b) (hbc : b ≤ c) : x.AtMost c := by
  cases x with
  | nan => trivial
  | infinite negative => exact h
  | finite negative m e => exact fun hsign => (h hsign).trans hbc

/-! ### Whole numbers -/

theorem wholePart_le (m : Nat) (e : Int) : (wholePart m e : ℚ) ≤ dyadic m e := by
  rw [wholePart, Nat.shiftRight_eq_div_pow, ← shiftLeft_div_shiftLeft, Nat.one_shiftLeft]
  exact Nat.cast_div_le

theorem AtMost.toCount_le {x : Binary f} {b : ℚ} {n : Nat} (h : x.AtMost b) (hb : b < n + 1) :
    x.toCount ≤ n := by
  unfold toCount toInt
  cases x with
  | nan => simp
  | infinite negative =>
    obtain rfl : negative = true := h
    simp
  | finite negative m e =>
    cases negative with
    | true => simp
    | false =>
      have hwhole : (wholePart m e : ℚ) < (n + 1 : Nat) := by
        push_cast
        exact ((wholePart_le m e).trans (h rfl)).trans_lt hb
      have hle : wholePart m e < n + 1 := by exact_mod_cast hwhole
      simp only [Bool.false_eq_true, if_false]
      omega

/-! ### Rounded results -/

theorem AtMost.ofRatio {negative : Bool} {num den n : Nat} {k : Int} (hden : 0 < den)
    (hn : f.Has n k) (h : negative = false → (num : ℚ) / den ≤ dyadic n k) :
    (Binary.ofRatio (f := f) negative num den).AtMost (dyadic n k) := by
  cases negative with
  | true =>
    rcases ofRatio_cases (f := f) hn.precision_pos true num hden with hinf | ⟨m, e, hfin, -⟩
    · rw [hinf]
      rfl
    · rw [hfin]
      exact fun hsign => Bool.noConfusion hsign
  | false =>
    obtain ⟨m, e, hfin, hle⟩ := exists_ofRatio_le false hden hn (h rfl)
    rw [hfin]
    exact fun _ => hle

theorem roundHalfUp_le {num den n : Nat} (hden : 0 < den)
    (h : (num : ℚ) / den < n + 1 / 2) : roundHalfUp num den ≤ n := by
  have hpos : (0 : ℚ) < den := by exact_mod_cast hden
  have hlt : (2 * num + den : Nat) < (n + 1) * (2 * den) := by
    rw [div_lt_iff₀ hpos] at h
    have hcast : ((2 * num + den : Nat) : ℚ) < ((n + 1) * (2 * den) : Nat) := by
      push_cast
      linarith
    exact_mod_cast hcast
  exact Nat.lt_succ_iff.1 ((Nat.div_lt_iff_lt_mul (by omega)).2 hlt)

/-- A number that is nearer to `n` than to the next whole number is rounded to at most `n`. -/
theorem AtMost.round {x : Binary f} {b : ℚ} {n : Nat} (h : x.AtMost b) (hb : b < n + 1 / 2)
    (hn : f.Has n 0) : x.round.AtMost n := by
  cases x with
  | nan => trivial
  | infinite negative => exact h
  | finite negative m e =>
    rw [← dyadic_zero]
    refine AtMost.ofRatio Nat.one_pos hn fun hsign => ?_
    have hround : roundHalfUp (m <<< e.toNat) (1 <<< (-e).toNat) ≤ n := by
      refine roundHalfUp_le (one_shiftLeft_pos _) ?_
      rw [shiftLeft_div_shiftLeft]
      exact (h hsign).trans_lt hb
    rw [Nat.cast_one, div_one, dyadic_zero]
    exact_mod_cast hround

/-! ### Products -/

/-- A product is bounded where the product of the bounds is a number of the format. -/
theorem AtMost.mul {m : Nat} {e : Int} {y : Binary f} {b : ℚ} {n : Nat} {k : Int}
    (hy : y.AtMost b) (hn : f.Has n k) (h : dyadic m e * b ≤ dyadic n k) :
    (Binary.finite (f := f) false m e * y).AtMost (dyadic n k) := by
  change (Binary.mul (.finite false m e) y).AtMost _
  cases y with
  | nan => trivial
  | infinite negative =>
    obtain rfl : negative = true := hy
    by_cases hm : m = 0
    · simp [Binary.mul, hm, AtMost]
    · simp [Binary.mul, hm, AtMost]
  | finite negative m' e' =>
    refine AtMost.ofRatio (one_shiftLeft_pos _) hn fun hsign => ?_
    rw [shiftLeft_div_shiftLeft, ← dyadic_mul_dyadic]
    have hfactor : dyadic m' e' ≤ b := hy (by simpa using hsign)
    exact (mul_le_mul_of_nonneg_left hfactor (dyadic_nonneg m e)).trans h

/-- Zero times anything is zero or no number. -/
theorem atMost_zero_mul (y : Binary f) : (zero false * y).AtMost 0 := by
  change (Binary.mul (.finite false 0 f.minExponent) y).AtMost 0
  cases y with
  | nan => trivial
  | infinite negative => trivial
  | finite negative m e =>
    simp only [Binary.mul, ofScaled, Nat.zero_mul, Nat.zero_shiftLeft, Binary.ofRatio, if_true]
    intro _
    simp [dyadic]

/-- Infinity times a number that is not above zero is negative or no number. -/
theorem atMost_infinite_mul {y : Binary f} (hy : y.AtMost 0) (b : ℚ) :
    (infinite false * y).AtMost b := by
  change (Binary.mul (.infinite false) y).AtMost b
  cases y with
  | nan => trivial
  | infinite negative =>
    obtain rfl : negative = true := hy
    rfl
  | finite negative m e =>
    by_cases hm : m = 0
    · simp [Binary.mul, hm, AtMost]
    · cases negative with
      | true => simp [Binary.mul, hm, AtMost]
      | false =>
        have hle : dyadic m e ≤ 0 := hy rfl
        have hpos : 0 < dyadic m e := by
          unfold dyadic
          have : (0 : ℚ) < m := by exact_mod_cast Nat.pos_of_ne_zero hm
          positivity
        linarith

/-! ### Quotients -/

/-- A quotient of finite numbers is the rounded quotient of their values. -/
theorem exists_div_eq_ofRatio {m n : Nat} (hn : n ≠ 0) (e k : Int) :
    ∃ num den : Nat, 0 < den ∧ (num : ℚ) / den = dyadic m e / dyadic n k ∧
      (Binary.finite (f := f) false m e) / .finite false n k =
        Binary.ofRatio false num den := by
  refine ⟨m <<< (e - k).toNat, n <<< (k - e).toNat, ?_, shiftLeft_div_shiftLeft_sub m n e k, ?_⟩
  · rw [Nat.shiftLeft_eq]
    have hpos := Nat.pos_of_ne_zero hn
    positivity
  · change Binary.div _ _ = _
    simp [Binary.div, hn]

/-! ### The lesser of two numbers -/

theorem units_eq (negative : Bool) (m : Nat) {e least : Int} (h : least ≤ e) :
    (units negative m e least : ℚ) * 2 ^ least =
      if negative then -dyadic m e else dyadic m e := by
  have hmag : (((m : Int) <<< (e - least).toNat : Int) : ℚ) * 2 ^ least = dyadic m e := by
    calc (((m : Int) <<< (e - least).toNat : Int) : ℚ) * 2 ^ least
        = dyadic (m * 2 ^ (e - least).toNat) least := by
          rw [Int.shiftLeft_eq, dyadic]
          push_cast
          rfl
      _ = dyadic m e := by
          rw [dyadic_mul_two_pow]
          congr 1
          omega
  cases negative with
  | true => simp [units, ← hmag]
  | false => simp [units, ← hmag]

/-- The signed value of a finite number. -/
def signed (negative : Bool) (m : Nat) (e : Int) : ℚ :=
  if negative then -dyadic m e else dyadic m e

theorem below_finite_iff {s t : Bool} {m n : Nat} {e k : Int} :
    below (f := f) (.finite s m e) (.finite t n k) = true ↔ signed s m e < signed t n k := by
  have hpos : (0 : ℚ) < 2 ^ min e k := by positivity
  rw [signed, signed, ← units_eq s m (min_le_left e k), ← units_eq t n (min_le_right e k),
    mul_lt_mul_iff_left₀ hpos]
  simp [below]

theorem atMost_finite_iff {s : Bool} {m : Nat} {e : Int} {b : ℚ} (hb : 0 ≤ b) :
    (Binary.finite (f := f) s m e).AtMost b ↔ signed s m e ≤ b := by
  have hnonneg := dyadic_nonneg m e
  cases s with
  | true => simp [AtMost, signed]; linarith
  | false => simp [AtMost, signed]

theorem AtMost.lesser_left {x y : Binary f} {b : ℚ} (hb : 0 ≤ b) (hx : x.AtMost b)
    (hnum : x ≠ .nan) : (lesser x y).AtMost b := by
  cases x with
  | nan => exact absurd rfl hnum
  | infinite s =>
    obtain rfl : s = true := hx
    cases y with
    | nan => rfl
    | infinite t => cases t <;> rfl
    | finite t n k => rfl
  | finite s m e =>
    cases y with
    | nan => exact hx
    | infinite t =>
      cases t with
      | true => rfl
      | false => exact hx
    | finite t n k =>
      simp only [lesser]
      split_ifs with hbelow
      · rw [below_finite_iff] at hbelow
        rw [atMost_finite_iff hb] at hx ⊢
        exact hbelow.le.trans hx
      · exact hx

theorem AtMost.lesser_right {x y : Binary f} {b : ℚ} (hb : 0 ≤ b) (hy : y.AtMost b)
    (hnum : y ≠ .nan) : (lesser x y).AtMost b := by
  cases y with
  | nan => exact absurd rfl hnum
  | infinite t =>
    obtain rfl : t = true := hy
    cases x with
    | nan => rfl
    | infinite s => cases s <;> rfl
    | finite s m e => rfl
  | finite t n k =>
    cases x with
    | nan => exact hy
    | infinite s =>
      cases s with
      | true => rfl
      | false => exact hy
    | finite s m e =>
      simp only [lesser]
      split_ifs with hbelow
      · exact hy
      · rw [below_finite_iff, not_lt] at hbelow
        rw [atMost_finite_iff hb] at hy ⊢
        exact hbelow.trans hy

end Binary
end DialogueSheet
