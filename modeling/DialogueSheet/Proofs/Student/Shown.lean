/-
# Totals as they are shown

A total is a 64-bit word, since the rounded value is held there (`isWord_total`).  Its text
takes one difference of words: how far the ratio of damage taken lies from 100 %.  Every total
but the lowest leaves room for that difference.

| ratio of damage taken | difference | text |
| --- | --- | --- |
| below `leastShown` | is no word | none: the computation overflows |
| from `leastShown`, below 100 % | exact | with a minus sign |
| from 100 % | exact | without a minus sign |

The texts of the other stats take no difference and have no minus sign, for their totals are
not negative (`shown_run`).
-/
import DialogueSheet.Proofs.Student.Buffed

namespace DialogueSheet

/-- The text starts with a minus sign. -/
def HasMinus (text : String) : Prop := text.toList.head? = some '-'

theorem hasMinus_append_iff {tail : String} (h : ¬HasMinus tail) (text : String) :
    HasMinus (text ++ tail) ↔ HasMinus text := by
  rw [HasMinus, HasMinus, String.toList_append, List.head?_append]
  cases text.toList.head? with
  | none => simpa [HasMinus] using h
  | some c => rfl

theorem head?_decimalDigits_ne (n : Nat) : (decimalDigits n).head? ≠ some '-' := fun h =>
  absurd (Nat.isDigit_of_mem_toDigits (by decide) (by decide) (List.mem_of_head? h)) (by decide)

/-! ### The signs of numbers and of their texts -/

namespace Binary

variable {f : BinaryFormat}

/-- The number has a minus sign. -/
def isNegative : Binary f → Bool
  | .nan => false
  | .infinite s => s
  | .finite s _ _ => s

theorem isNegative_pack (negative : Bool) (m : Nat) (e : Int) :
    (pack negative m e : Binary f).isNegative = negative := by
  unfold pack
  split <;> split <;> rfl

/-- Rounding keeps the sign, also where it ends at zero or at an infinity. -/
theorem isNegative_ofRatio (negative : Bool) (num den : Nat) :
    (ofRatio negative num den : Binary f).isNegative = negative := by
  unfold ofRatio
  split
  · rfl
  · exact isNegative_pack ..

theorem isNegative_ofInt (i : Int) : (ofInt i : Binary f).isNegative = decide (i < 0) :=
  isNegative_ofRatio ..

theorem isNegative_div (x : Binary f) {n : Nat} (hn : n ≠ 0) (e : Int) :
    (x / .finite false n e).isNegative = x.isNegative := by
  change (div x (.finite false n e)).isNegative = _
  cases x with
  | nan => rfl
  | infinite s => exact Bool.xor_false s
  | finite s m k =>
    rw [div, if_neg hn, isNegative_ofRatio]
    exact Bool.xor_false s

theorem hasMinus_wholeText_iff (x : Binary f) : HasMinus x.wholeText ↔ x.isNegative = true := by
  cases x with
  | nan => simp [HasMinus, wholeText, plainText, signedText, isNegative]
  | infinite s => cases s <;> simp [HasMinus, wholeText, plainText, signedText, isNegative]
  | finite s m e =>
    cases s with
    | true => simp [HasMinus, wholeText, isNegative]
    | false => simp [HasMinus, wholeText, isNegative, head?_decimalDigits_ne]

end Binary

namespace StudentStats

theorem hasMinus_percentage_iff (parts : Int) : HasMinus (percentage parts) ↔ parts < 0 := by
  have hhundred : (100 : Binary64) = .finite false 7036874417766400 (-46) := by decide +kernel
  have htail : ¬HasMinus "%" := by simp [HasMinus]
  rw [percentage, hasMinus_append_iff htail, Binary.hasMinus_wholeText_iff, hhundred,
    Binary.isNegative_div _ (by decide), Binary.isNegative_ofInt, decide_eq_true_iff]

theorem head?_groupDigits (digits : List Char) :
    (groupDigits true digits).head? = digits.head? := by
  cases digits <;> rfl

theorem hasMinus_groupThousands_iff (n : Int) :
    HasMinus (String.ofList (groupThousands n)) ↔ n < 0 := by
  by_cases hn : n < 0
  · simp [HasMinus, groupThousands, hn]
  · simp [HasMinus, groupThousands, hn, head?_groupDigits, head?_decimalDigits_ne]

/-! ### Totals -/

variable (s : StudentStats) (key : StatKey)

/-- **A total is a word**, whatever the buffs add up to. -/
theorem isWord_total : IsWord (s.total key) := by
  have hcast : ∀ x : Binary64, IsWord x.toInt64 := by
    intro x
    unfold IsWord Binary.toInt64 Binary.toInt
    cases x with
    | nan => decide
    | infinite negative => cases negative <;> decide
    | finite negative m e => dsimp only; omega
  have hmax : ∀ n, IsWord n → IsWord (max n 0) := by
    unfold IsWord
    omega
  unfold total
  dsimp only
  split
  · exact hcast _
  · exact hmax _ (hcast _)

/-- The least total whose distance from 100 % is a word. -/
def leastShown : Int := -9223372036854765808

/-- 100 % is taken off every word from `leastShown` on. -/
theorem wordSub_hundred {n : Int} (h : IsWord n) :
    (leastShown ≤ n ∧ wordSub n 10000 = .ok (n - 10000)) ∨
      n < leastShown ∧ wordSub n 10000 = .error .overflow := by
  simp only [leastShown, wordSub]
  simp only [IsWord] at h ⊢
  by_cases hleast : -9223372036854765808 ≤ n
  · exact .inl ⟨hleast, if_pos (by omega)⟩
  · exact .inr ⟨by omega, if_neg (by omega)⟩

/-- How the total of a stat is shown. -/
structure Shown : Prop where
  /-- The total is a word. -/
  word : IsWord (s.total key)
  /-- The lowest totals of one stat overflow; nothing else keeps a total from being shown. -/
  overflow : ∀ e, s.totalText key = .error e ↔
    e = .overflow ∧ key = .damagedRatio ∧ s.total key < leastShown
  /-- A minus sign stands before the reductions of damage taken and nowhere else. -/
  minus : ∀ text, s.totalText key = .ok text →
    (HasMinus text ↔ key = .damagedRatio ∧ s.total key < 10000)

theorem shown_damagedRatio : s.Shown .damagedRatio where
  word := s.isWord_total .damagedRatio
  overflow e := by
    simp only [totalText, true_and, if_true]
    rcases wordSub_hundred (s.isWord_total .damagedRatio) with ⟨hleast, hsub⟩ | ⟨hleast, hsub⟩
    · rw [hsub]
      exact iff_of_false (fun h => by cases h) fun h => absurd h.2 (by omega)
    · rw [hsub]
      exact ⟨fun h => ⟨(Except.error.inj h).symm, hleast⟩, fun h => h.1 ▸ rfl⟩
  minus text htext := by
    simp only [totalText, if_true] at htext
    simp only [true_and]
    rcases wordSub_hundred (s.isWord_total .damagedRatio) with ⟨-, hsub⟩ | ⟨-, hsub⟩
    · rw [hsub] at htext
      obtain rfl : percentage _ = text := Except.ok.inj htext
      rw [hasMinus_percentage_iff]
      omega
    · rw [hsub] at htext
      cases htext

variable {key} in
theorem shown_of_ne (h : key ≠ .damagedRatio) : s.Shown key where
  word := s.isWord_total key
  overflow e := by
    obtain ⟨text, htext⟩ := s.exists_totalText h
    simp only [htext, h, reduceCtorEq, false_and, and_false]
  minus text htext := by
    have hnonneg := s.total_nonneg h
    simp only [totalText, h, if_false] at htext
    simp only [h, false_and, iff_false]
    split at htext
    · rw [← Except.ok.inj htext, hasMinus_percentage_iff]
      omega
    · rw [← Except.ok.inj htext, hasMinus_groupThousands_iff]
      omega

/-- **What no run of buffs changes about the texts**: a total is a word, it overflows on its way
to a text just for a ratio of damage taken below `leastShown`, and the text has a minus sign
just for a ratio from there to 100 %. -/
theorem shown_run (student : Student) (level stars : Nat) (steps : List Step) (key : StatKey) :
    ((ofStudent student level stars).run steps).Shown key := by
  by_cases h : key = .damagedRatio
  · exact h ▸ shown_damagedRatio _
  · exact shown_of_ne _ h

/-- One great reduction of the damage taken cannot be shown. -/
theorem totalText_reduced :
    let s := (ofStudent {} 1 0).run [.buff .damagedRatio .flat (-1e19)]
    s.total .damagedRatio = -9223372036854775808 ∧
      s.totalText .damagedRatio = .error .overflow := by
  decide +kernel

end StudentStats
end DialogueSheet
