/-
# What the operations round to

`f.Holds q` says that the format has the number `q`, and `x.Rounds q` that `x` is `q` rounded
to its format: a finite number, on the same side of every number of the format as `q`, and off
by no more than a last place.  Every operation on numbers of the format rounds its exact result
(`Rounds.add`, `Rounds.sub`, `Rounds.mul`, `Rounds.div`), as long as some number of the format
is not below its magnitude.

What needs no rounding stays as it is (`Rounds.value_eq`).  A half needs none, except next to
zero (`Holds.half`), and two different numbers of the format are apart by a unit that both are
whole multiples of (`OnGrid.add_le`), so that the sign of a difference is never rounded away
(`Rounds.nonneg_iff_le`).
-/
import DialogueSheet.Proofs.Number.Bounds

namespace DialogueSheet

/-! ### The numbers of a format -/

namespace BinaryFormat

variable {f : BinaryFormat} {q r : ℚ}

/-- The format has the number `q`. -/
def Holds (f : BinaryFormat) (q : ℚ) : Prop := ∃ n k, f.Has n k ∧ |q| = dyadic n k

theorem Holds.neg (h : f.Holds q) : f.Holds (-q) := by
  unfold Holds
  rwa [abs_neg]

theorem Holds.abs (h : f.Holds q) : f.Holds |q| := by
  unfold Holds
  rwa [abs_abs]

theorem Holds.has_of_nonneg (h : f.Holds q) (hq : 0 ≤ q) : ∃ n k, f.Has n k ∧ q = dyadic n k := by
  obtain ⟨n, k, hn, hvalue⟩ := h
  exact ⟨n, k, hn, by rwa [abs_of_nonneg hq] at hvalue⟩

theorem Holds.zero (h : f.Holds q) : f.Holds 0 := by
  obtain ⟨n, k, hn, -⟩ := h
  refine ⟨0, k, ⟨hn.precision_pos, by positivity, hn.least_le, hn.le_greatest⟩, ?_⟩
  simp [dyadic]

/-- A power of two between the least and the greatest exponent. -/
theorem holds_two_zpow {k : Int} (hp : 0 < f.precision) (hleast : f.minExponent ≤ k)
    (hgreatest : k ≤ f.maxExponent) : f.Holds (2 ^ k) := by
  refine ⟨1, k, ⟨hp, Nat.one_lt_two_pow hp.ne', hleast, hgreatest⟩, ?_⟩
  rw [abs_of_nonneg (by positivity), dyadic, Nat.cast_one, one_mul]

/-- The least positive number of the format. -/
theorem Holds.two_zpow_least (h : f.Holds q) : f.Holds (2 ^ f.minExponent) := by
  obtain ⟨n, k, hn, -⟩ := h
  exact holds_two_zpow hn.precision_pos le_rfl (hn.least_le.trans hn.le_greatest)

theorem Holds.max (hq : f.Holds q) (hr : f.Holds r) : f.Holds (max q r) := by
  rcases max_choice q r with h | h
  · rwa [h]
  · rwa [h]

/-- Half a number of the format is one again, where the last place can be made smaller. -/
theorem Holds.half (h : f.Holds q)
    (hlarge : q = 0 ∨ (2 : ℚ) ^ ((f.precision : Int) + f.minExponent) ≤ |q|) :
    f.Holds (q / 2) := by
  rcases hlarge with rfl | hlarge
  · rwa [zero_div]
  · obtain ⟨n, k, hn, hvalue⟩ := h
    have hk : f.minExponent < k := by
      have hlt := hn.lt_of_two_zpow_le (hlarge.trans_eq hvalue)
      omega
    have hmax := hn.le_greatest
    refine ⟨n, k - 1, ⟨hn.precision_pos, hn.fits, by omega, by omega⟩, ?_⟩
    rw [abs_div, hvalue, abs_two, dyadic, dyadic, zpow_sub_one₀ two_ne_zero]
    ring

/-- `q` is a whole multiple of `2 ^ g`. -/
def OnGrid (g : Int) (q : ℚ) : Prop := ∃ z : Int, q = z * 2 ^ g

/-- A number of the format is a multiple of the last place it has room for. -/
theorem Holds.onGrid {g : Int} (h : f.Holds q)
    (hg : g ≤ f.minExponent ∨ (2 : ℚ) ^ ((f.precision : Int) - 1 + g) ≤ |q|) : OnGrid g q := by
  obtain ⟨n, k, hn, hvalue⟩ := h
  have hk : g ≤ k := by
    rcases hg with hg | hg
    · exact hg.trans hn.least_le
    · have hlt := hn.lt_of_two_zpow_le (hg.trans_eq hvalue)
      omega
  have hmagnitude : |q| = ((n * 2 ^ (k - g).toNat : Nat) : ℚ) * 2 ^ g := by
    rw [hvalue, ← dyadic, dyadic_mul_two_pow]
    congr 1
    omega
  rcases abs_choice q with habs | habs
  · exact ⟨(n * 2 ^ (k - g).toNat : Nat), by rw [← habs, hmagnitude, Int.cast_natCast]⟩
  · refine ⟨-(n * 2 ^ (k - g).toNat : Nat), ?_⟩
    rw [Int.cast_neg, Int.cast_natCast, neg_mul, ← hmagnitude, habs, neg_neg]

/-- Different multiples of a unit are apart by that unit. -/
theorem OnGrid.add_le {g : Int} (hq : OnGrid g q) (hr : OnGrid g r) (h : q < r) :
    q + 2 ^ g ≤ r := by
  obtain ⟨y, rfl⟩ := hq
  obtain ⟨z, rfl⟩ := hr
  have hpos : (0 : ℚ) < 2 ^ g := by positivity
  have hlt : (y : ℚ) < z := lt_of_mul_lt_mul_right h hpos.le
  have hle : (y : ℚ) + 1 ≤ z := by exact_mod_cast hlt
  calc (y : ℚ) * 2 ^ g + 2 ^ g = (y + 1) * 2 ^ g := by ring
    _ ≤ z * 2 ^ g := by gcongr

end BinaryFormat

/-! ### Lower bounds of rounded quotients -/

theorem le_roundHalfEven {num den n : Nat} (hden : 0 < den) (h : n * den ≤ num) :
    n ≤ roundHalfEven num den := by
  have hquot : n ≤ num / den := (Nat.le_div_iff_mul_le hden).2 h
  rcases roundHalfEven_cases num den with ⟨hround, -⟩ | ⟨hround, -⟩ <;> omega

namespace Binary

open BinaryFormat

variable {f : BinaryFormat}

theorem le_significandOf {num den n : Nat} (hden : 0 < den)
    (h : dyadic n (exponentOf f num den) ≤ (num : ℚ) / den) : n ≤ significandOf f num den := by
  have hpos := scaleDown_pos hden num (exponentOf f num den)
  refine le_roundHalfEven hpos ?_
  have hscaled : (n : ℚ) ≤ ((scaleDown num den (exponentOf f num den)).1 : ℚ) /
      (scaleDown num den (exponentOf f num den)).2 := by
    rw [scaleDown_div, le_div_iff₀ (by positivity)]
    exact h
  rw [le_div_iff₀ (by exact_mod_cast hpos)] at hscaled
  exact_mod_cast hscaled

/-- The significand of a quotient is not below a number of the format that the quotient is not
below. -/
theorem dyadic_le_significandOf {num den n : Nat} {k : Int} (hnum : 0 < num) (hden : 0 < den)
    (hn : f.Has n k) (h : dyadic n k ≤ (num : ℚ) / den) :
    dyadic n k ≤ dyadic (significandOf f num den) (exponentOf f num den) := by
  set e := exponentOf f num den with he
  obtain ⟨-, -, hplace⟩ := exponentOf_spec (f := f) hnum hden
  rcases le_or_gt e k with hek | hek
  · have hsame : dyadic (n * 2 ^ (k - e).toNat) e = dyadic n k := by
      rw [dyadic_mul_two_pow]
      congr 1
      omega
    rw [← hsame]
    exact dyadic_le_dyadic (le_significandOf hden (by rw [← he, hsame]; exact h)) e
  · -- the number has a smaller last place than the quotient, whose significand is full
    have hp := hn.precision_pos
    have hmin := hn.least_le
    rcases hplace with hleast | hfull
    · omega
    have hexponent : ((f.precision - 1 : Nat) : Int) + e = (f.precision : Int) - 1 + e := by
      omega
    have hsig : 2 ^ (f.precision - 1) ≤ significandOf f num den := by
      refine le_significandOf hden ?_
      rw [dyadic_two_pow, ← he, hexponent]
      exact hfull
    calc dyadic n k ≤ dyadic (2 ^ f.precision) k := dyadic_le_dyadic hn.fits.le k
      _ = 2 ^ ((f.precision : Int) + k) := dyadic_two_pow _ k
      _ ≤ 2 ^ ((f.precision : Int) - 1 + e) := zpow_le_zpow_right₀ one_le_two (by omega)
      _ = dyadic (2 ^ (f.precision - 1)) e := by rw [dyadic_two_pow, hexponent]
      _ ≤ dyadic (significandOf f num den) e := dyadic_le_dyadic hsig e

/-- What is packed is a number of the format. -/
theorem has_of_pack {negative s : Bool} {m n : Nat} {e k : Int} (hp : 0 < f.precision)
    (hm : m ≤ 2 ^ f.precision) (he : f.minExponent ≤ e)
    (h : pack (f := f) negative m e = .finite s n k) : f.Has n k := by
  unfold pack at h
  rw [Nat.one_shiftLeft] at h
  split_ifs at h with hfull hover hover
  · cases h
    refine ⟨hp, ?_, by omega, by omega⟩
    rw [Nat.one_shiftLeft]
    exact Nat.pow_lt_pow_right one_lt_two (by omega)
  · cases h
    exact ⟨hp, lt_of_le_of_ne hm hfull, he, by omega⟩

/-! ### Numbers and their values -/

/-- The value of a finite number. -/
def value : Binary f → ℚ
  | .finite s m e => signed s m e
  | _ => 0

/-- A finite number of the format. -/
def IsNumber : Binary f → Prop
  | .finite _ m e => f.Has m e
  | _ => False

theorem abs_signed (s : Bool) (m : Nat) (e : Int) : |signed s m e| = dyadic m e := by
  cases s with
  | true => rw [signed, if_pos rfl, abs_neg, abs_of_nonneg (dyadic_nonneg m e)]
  | false => exact abs_of_nonneg (dyadic_nonneg m e)

theorem signed_not (s : Bool) (m : Nat) (e : Int) : signed (!s) m e = -signed s m e := by
  cases s with
  | true => simp [signed]
  | false => simp [signed]

theorem value_negate (x : Binary f) : (negate x).value = -x.value := by
  cases x with
  | finite s m e => exact signed_not s m e
  | nan => exact neg_zero.symm
  | infinite s => exact neg_zero.symm

theorem IsNumber.negate {x : Binary f} (h : x.IsNumber) : (negate x).IsNumber := by
  cases x with
  | finite s m e => exact h
  | nan => exact h
  | infinite s => exact h

theorem IsNumber.holds {x : Binary f} (h : x.IsNumber) : f.Holds x.value := by
  cases x with
  | finite s m e => exact ⟨m, e, h, abs_signed s m e⟩
  | nan => exact h.elim
  | infinite s => exact h.elim

/-! ### Rounded numbers -/

/-- `x` is `q` rounded to the format. -/
structure Rounds (x : Binary f) (q : ℚ) : Prop where
  isNumber : x.IsNumber
  le_of_le : ∀ {c}, f.Holds c → q ≤ c → x.value ≤ c
  le_of_ge : ∀ {c}, f.Holds c → c ≤ q → c ≤ x.value
  error_le : |x.value - q| ≤ |q| * 2 ^ (-(f.precision : Int)) + 2 ^ (f.minExponent - 1)

namespace Rounds

variable {x y : Binary f} {q c : ℚ}

/-- A number of the format is not changed. -/
theorem value_eq (h : x.Rounds q) (hq : f.Holds q) : x.value = q :=
  le_antisymm (h.le_of_le hq le_rfl) (h.le_of_ge hq le_rfl)

theorem nonneg (h : x.Rounds q) (hq : 0 ≤ q) : 0 ≤ x.value :=
  h.le_of_ge h.isNumber.holds.zero hq

theorem negate (h : x.Rounds q) : (negate x).Rounds (-q) := by
  refine ⟨h.isNumber.negate, fun hc hle => ?_, fun hc hle => ?_, ?_⟩
  · rw [value_negate, neg_le]
    exact h.le_of_ge hc.neg (neg_le.1 hle)
  · rw [value_negate, le_neg]
    exact h.le_of_le hc.neg (le_neg.1 hle)
  · rw [value_negate, abs_neg, neg_sub_neg, abs_sub_comm]
    exact h.error_le

/-- A rounded difference is negative exactly when the difference is: two numbers of the format
are apart by its least number. -/
theorem nonneg_iff_le {a b : ℚ} (h : x.Rounds (a - b)) (ha : f.Holds a) (hb : f.Holds b) :
    0 ≤ x.value ↔ b ≤ a := by
  refine ⟨fun hnonneg => ?_, fun hle => h.nonneg (sub_nonneg.2 hle)⟩
  by_contra hlt
  have hgap := (ha.onGrid (Or.inl le_rfl)).add_le (hb.onGrid (Or.inl le_rfl)) (not_le.1 hlt)
  have hpos : (0 : ℚ) < 2 ^ f.minExponent := by positivity
  have hneg : x.value ≤ -2 ^ f.minExponent := h.le_of_le ha.two_zpow_least.neg (by linarith)
  linarith

/-- A number that is its exact value. -/
theorem of_value_eq (h : x.IsNumber) (hq : x.value = q) : x.Rounds q := by
  subst hq
  refine ⟨h, fun _ hle => hle, fun _ hle => hle, ?_⟩
  rw [sub_self, abs_zero]
  positivity

end Rounds

theorem rounds_zero {n : Nat} {k : Int} (h : f.Has n k) (negative : Bool) :
    (zero negative : Binary f).Rounds 0 := by
  refine Rounds.of_value_eq ?_ ?_
  · exact ⟨h.precision_pos, by positivity, le_rfl, h.least_le.trans h.le_greatest⟩
  · simp [zero, value, signed, dyadic]

theorem ofRatio_true (num den : Nat) :
    (ofRatio true num den : Binary f) = negate (ofRatio false num den) := by
  unfold ofRatio pack
  simp only
  split_ifs <;> rfl

/-- **A quotient within the range of the format is rounded to a number of it.** -/
theorem rounds_ofRatio_false {num den : Nat} {c : ℚ} (hden : 0 < den) (hc : f.Holds c)
    (h : (num : ℚ) / den ≤ c) : (ofRatio false num den : Binary f).Rounds (num / den) := by
  have hq : (0 : ℚ) ≤ num / den := by positivity
  obtain ⟨n, k, hn, rfl⟩ := hc.has_of_nonneg (hq.trans h)
  rcases Nat.eq_zero_or_pos num with rfl | hnum
  · rw [Nat.cast_zero, zero_div]
    exact rounds_zero hn false
  obtain ⟨m, e, hfin, -⟩ := exists_ofRatio_le false hden hn h
  have hpack := ofRatio_eq_pack (f := f) hnum false den
  have hle := significandOf_le_two_pow (f := f) hnum hden
  rw [hfin] at hpack ⊢
  have hvalue : dyadic m e = dyadic (significandOf f num den) (exponentOf f num den) := by
    rcases pack_cases hn.precision_pos false hle with ⟨hinf, -⟩ | ⟨m', e', hfin', hsame, -⟩
    · rw [hinf] at hpack
      cases hpack
    · rw [hfin'] at hpack
      cases hpack
      exact hsame
  refine ⟨has_of_pack hn.precision_pos hle (exponentOf_spec hnum hden).1 hpack.symm,
    fun {c} hc hqc => ?_, fun {c} hc hcq => ?_, ?_⟩
  · obtain ⟨n, k, hn, rfl⟩ := hc.has_of_nonneg (hq.trans hqc)
    obtain ⟨m', e', hfin', hbound⟩ := exists_ofRatio_le (f := f) false hden hn hqc
    rw [hfin] at hfin'
    cases hfin'
    exact hbound
  · rcases le_total c 0 with hneg | hpos
    · exact hneg.trans (dyadic_nonneg m e)
    · obtain ⟨n, k, hn, rfl⟩ := hc.has_of_nonneg hpos
      exact (dyadic_le_significandOf hnum hden hn hcq).trans_eq hvalue.symm
  · rw [abs_of_nonneg hq]
    change |dyadic m e - _| ≤ _
    rw [hvalue]
    exact (abs_dyadic_significandOf_sub_le hden).trans (half_unit_le hnum hden)

theorem rounds_ofRatio (negative : Bool) {num den : Nat} {c : ℚ} (hden : 0 < den)
    (hc : f.Holds c) (h : (num : ℚ) / den ≤ c) :
    (ofRatio negative num den : Binary f).Rounds
      (if negative then -((num : ℚ) / den) else num / den) := by
  have hrounds := rounds_ofRatio_false hden hc h
  cases negative with
  | true =>
    rw [ofRatio_true, if_pos rfl]
    exact hrounds.negate
  | false => exact hrounds

theorem rounds_ofScaled {negative : Bool} {n : Nat} {e : Int} {c : ℚ} (hc : f.Holds c)
    (h : dyadic n e ≤ c) : (ofScaled negative n e : Binary f).Rounds (signed negative n e) := by
  have hround := rounds_ofRatio (f := f) negative (one_shiftLeft_pos (-e).toNat) hc
    (by rwa [shiftLeft_div_shiftLeft])
  rwa [shiftLeft_div_shiftLeft] at hround

/-- A natural number within the range of the format. -/
theorem rounds_ofNat {n : Nat} {c : ℚ} (hc : f.Holds c) (h : (n : ℚ) ≤ c) :
    (ofNat n : Binary f).Rounds n := by
  have hle : ((n : Nat) : ℚ) / (1 : Nat) ≤ c := by rwa [Nat.cast_one, div_one]
  have hround := rounds_ofRatio_false (f := f) Nat.one_pos hc hle
  rwa [Nat.cast_one, div_one] at hround

/-! ### Operations -/

section Operations

variable {x y : Binary f} {c : ℚ} (hx : x.IsNumber) (hy : y.IsNumber) (hc : f.Holds c)
include hx hy hc

theorem Rounds.add (h : |x.value + y.value| ≤ c) : (x + y).Rounds (x.value + y.value) := by
  cases x with
  | nan => exact hx.elim
  | infinite s => exact hx.elim
  | finite s m e =>
    cases y with
    | nan => exact hy.elim
    | infinite t => exact hy.elim
    | finite t n k =>
      change |signed s m e + signed t n k| ≤ c at h
      change (Binary.add _ _).Rounds (signed s m e + signed t n k)
      set least := min e k with hleast
      set sum := units s m e least + units t n k least with hsum
      have hvalue : signed s m e + signed t n k = sum * 2 ^ least := by
        rw [signed, signed, ← units_eq s m (min_le_left e k), ← units_eq t n (min_le_right e k),
          hsum]
        push_cast
        ring
      rw [hvalue] at h ⊢
      simp only [Binary.add, ← hleast, ← hsum]
      split_ifs with hzero
      · rw [hzero, Int.cast_zero, zero_mul]
        exact rounds_zero hx _
      · have hsigned : signed (decide (sum < 0)) sum.natAbs least = sum * 2 ^ least := by
          rcases lt_or_ge sum 0 with hneg | hpos
          · simp [signed, dyadic, hneg, Nat.cast_natAbs, abs_of_neg hneg]
          · simp [signed, dyadic, hpos.not_gt, Nat.cast_natAbs, abs_of_nonneg hpos]
        rw [← hsigned] at h ⊢
        rw [abs_signed] at h
        exact rounds_ofScaled hc h

theorem Rounds.sub (h : |x.value - y.value| ≤ c) : (x - y).Rounds (x.value - y.value) := by
  have hsum := Rounds.add hx hy.negate hc (by rwa [value_negate, ← sub_eq_add_neg])
  rwa [value_negate, ← sub_eq_add_neg] at hsum

theorem Rounds.mul (h : |x.value * y.value| ≤ c) : (x * y).Rounds (x.value * y.value) := by
  cases x with
  | nan => exact hx.elim
  | infinite s => exact hx.elim
  | finite s m e =>
    cases y with
    | nan => exact hy.elim
    | infinite t => exact hy.elim
    | finite t n k =>
      change |signed s m e * signed t n k| ≤ c at h
      change (ofScaled (s != t) (m * n) (e + k) : Binary f).Rounds (signed s m e * signed t n k)
      have hvalue : signed s m e * signed t n k = signed (s != t) (m * n) (e + k) := by
        cases s <;> cases t <;> simp [signed, ← dyadic_mul_dyadic]
      rw [hvalue] at h ⊢
      rw [abs_signed] at h
      exact rounds_ofScaled hc h

theorem Rounds.div (hzero : y.value ≠ 0) (h : |x.value / y.value| ≤ c) :
    (x / y).Rounds (x.value / y.value) := by
  cases x with
  | nan => exact hx.elim
  | infinite s => exact hx.elim
  | finite s m e =>
    cases y with
    | nan => exact hy.elim
    | infinite t => exact hy.elim
    | finite t n k =>
      change |signed s m e / signed t n k| ≤ c at h
      have hn : n ≠ 0 := by
        rintro rfl
        simp [value, signed, dyadic] at hzero
      have hdiv : (Binary.finite s m e : Binary f) / .finite t n k =
          ofRatio (s != t) (m <<< (e - k).toNat) (n <<< (k - e).toNat) := by
        change Binary.div _ _ = _
        simp [Binary.div, hn]
      have hden : 0 < n <<< (k - e).toNat := by
        rw [Nat.shiftLeft_eq]
        positivity
      have hquot := shiftLeft_div_shiftLeft_sub m n e k
      rw [abs_div, abs_signed, abs_signed, ← hquot] at h
      have hround := rounds_ofRatio (f := f) (s != t) hden hc h
      rw [hquot] at hround
      rw [hdiv]
      convert hround using 1
      cases s <;> cases t <;> simp [value, signed, neg_div, div_neg]

end Operations

/-- A difference of two numbers that are not negative stays within the format. -/
theorem Rounds.sub_of_nonneg {x y : Binary f} (hx : x.IsNumber) (hy : y.IsNumber)
    (hxpos : 0 ≤ x.value) (hypos : 0 ≤ y.value) : (x - y).Rounds (x.value - y.value) := by
  refine Rounds.sub hx hy (hx.holds.max hy.holds) ?_
  have hleft := le_max_left x.value y.value
  have hright := le_max_right x.value y.value
  rw [abs_le]
  constructor <;> linarith

/-! ### The lesser and the greater of two numbers -/

/-- Neither an infinity nor no number at all. -/
def IsFinite : Binary f → Prop
  | .finite .. => True
  | _ => False

theorem IsNumber.isFinite {x : Binary f} (h : x.IsNumber) : x.IsFinite := by
  cases x with
  | finite s m e => trivial
  | nan => exact h.elim
  | infinite s => exact h.elim

theorem IsFinite.ne_nan {x : Binary f} (h : x.IsFinite) : x ≠ .nan := by
  rintro rfl
  exact h

theorem IsFinite.atMost_iff {x : Binary f} (h : x.IsFinite) {b : ℚ} (hb : 0 ≤ b) :
    x.AtMost b ↔ x.value ≤ b := by
  cases x with
  | finite s m e => exact atMost_finite_iff hb
  | nan => exact h.elim
  | infinite s => exact h.elim

theorem lesser_ne_nan {x y : Binary f} (hy : y ≠ .nan) : lesser x y ≠ .nan := by
  unfold lesser
  split
  · exact hy
  · exact absurd rfl hy
  · rename_i hx _
    split_ifs
    · exact hy
    · exact hx

theorem greater_eq_or (x y : Binary f) : greater x y = x ∨ greater x y = y := by
  unfold greater
  split
  · exact Or.inr rfl
  · exact Or.inl rfl
  · split_ifs
    · exact Or.inl rfl
    · exact Or.inr rfl

theorem atMost_greater {x y : Binary f} {b : ℚ} (hx : x.AtMost b) (hy : y.AtMost b) :
    (greater x y).AtMost b := by
  rcases greater_eq_or x y with h | h <;> rwa [h]

theorem zero_eq : (0 : Binary f) = .finite false 0 f.minExponent := rfl

theorem value_zero : (0 : Binary f).value = 0 := by
  simp [zero_eq, value, signed, dyadic]

/-- The greater of zero and a number that has some bound. -/
theorem AtMost.greater_zero {x : Binary f} {b : ℚ} (hx : x.AtMost b) :
    (greater x 0).IsFinite ∧ 0 ≤ (greater x 0).value := by
  have hzero : IsFinite (0 : Binary f) ∧ 0 ≤ (0 : Binary f).value := ⟨trivial, value_zero.ge⟩
  cases x with
  | nan => exact hzero
  | infinite s =>
    obtain rfl : s = true := hx
    exact hzero
  | finite s m e =>
    rw [zero_eq] at hzero ⊢
    simp only [greater]
    split_ifs with hbelow
    · rw [below_finite_iff] at hbelow
      exact ⟨trivial, hzero.2.trans hbelow.le⟩
    · exact hzero

/-- **What is held between zero and two numbers** is finite and not negative, whatever it was,
and not above a number that is not negative. -/
theorem held_spec (x : Binary f) {y z : Binary f} (hy : y.IsFinite) (hz : z.IsFinite) :
    (greater (lesser (lesser x y) z) 0).IsFinite ∧
      0 ≤ (greater (lesser (lesser x y) z) 0).value ∧
      (0 ≤ y.value → (greater (lesser (lesser x y) z) 0).value ≤ y.value) ∧
      (0 ≤ z.value → (greater (lesser (lesser x y) z) 0).value ≤ z.value) := by
  have hleft : ∀ {b}, 0 ≤ b → y.value ≤ b → (lesser (lesser x y) z).AtMost b := fun {b} hb hle =>
    AtMost.lesser_left hb (AtMost.lesser_right hb ((hy.atMost_iff hb).2 hle) hy.ne_nan)
      (lesser_ne_nan hy.ne_nan)
  have hright : ∀ {b}, 0 ≤ b → z.value ≤ b → (lesser (lesser x y) z).AtMost b :=
    fun {b} hb hle => AtMost.lesser_right hb ((hz.atMost_iff hb).2 hle) hz.ne_nan
  obtain ⟨hfinite, hnonneg⟩ := (hleft (le_max_left 0 y.value) (le_max_right 0 y.value)).greater_zero
  have hzero : ∀ {b}, 0 ≤ b → (0 : Binary f).AtMost b := fun {b} hb =>
    ((show IsFinite (0 : Binary f) from trivial).atMost_iff hb).2 (value_zero.trans_le hb)
  refine ⟨hfinite, hnonneg, fun hpos => ?_, fun hpos => ?_⟩
  · exact (hfinite.atMost_iff hpos).1 (atMost_greater (hleft hpos le_rfl) (hzero hpos))
  · exact (hfinite.atMost_iff hpos).1 (atMost_greater (hright hpos le_rfl) (hzero hpos))

end Binary
end DialogueSheet
