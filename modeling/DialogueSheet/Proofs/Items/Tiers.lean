/-
# Equipment by tiers

A request for equipment names a category and a tier.  The rows of the category count whose tier
lies between the lowest and the requested one; a request below the lowest tier is one for it
(`Equipment.Suits`).  Among them the highest tier wins, and among rows of one tier the first in the
table: one pass that keeps the better row is the `argmax` of the tiers (`equipment?_eq_argmax`).
Trying the tiers from the top, each against the whole table, finds the same row
(`firstDown_eq_argmax`).
-/
import DialogueSheet.Items.Tables
import Mathlib.Data.List.MinMax

namespace DialogueSheet

/-- The first of the entries that have the property and the greatest value among those that have
it, by its place in the list. -/
theorem argmax_filter_eq_some_iff {α : Type} [DecidableEq α] {f : α → Nat} {p : α → Bool}
    {l : List α} {a : α} : (l.filter p).argmax f = some a ↔
      ∃ before after, l = before ++ a :: after ∧ p a = true ∧
        (∀ b ∈ l, p b = true → f b ≤ f a) ∧ ∀ b ∈ before, p b = true → f b ≠ f a := by
  rw [List.argmax_eq_some_iff]
  constructor
  · rintro ⟨hmem, hmax, hfirst⟩
    obtain ⟨ha, hpa⟩ := List.mem_filter.1 hmem
    obtain ⟨before, after, rfl, hnot⟩ := List.eq_append_cons_of_mem ha
    have hle : ∀ b ∈ before ++ a :: after, p b = true → f b ≤ f a := fun b hb hpb =>
      hmax b (List.mem_filter.2 ⟨hb, hpb⟩)
    refine ⟨before, after, rfl, hpa, hle, fun b hb hpb heq => ?_⟩
    -- an earlier entry of the same value would come first
    have hb' : b ∈ before.filter p := List.mem_filter.2 ⟨hb, hpb⟩
    have hnot' : a ∉ before.filter p := fun h => hnot (List.mem_filter.1 h).1
    have hplace := hfirst b (List.mem_filter.2 ⟨by simp [hb], hpb⟩) heq.ge
    rw [List.filter_append, List.idxOf_append_of_mem hb', List.idxOf_append_of_notMem hnot']
      at hplace
    have hlt := List.idxOf_lt_length_of_mem hb'
    omega
  · rintro ⟨before, after, rfl, hpa, hmax, hbefore⟩
    refine ⟨List.mem_filter.2 ⟨by simp, hpa⟩, fun b hb => hmax b (List.mem_filter.1 hb).1
      (List.mem_filter.1 hb).2, fun b hb hle => ?_⟩
    obtain ⟨hb, hpb⟩ := List.mem_filter.1 hb
    have heq : f b = f a := le_antisymm (hmax b hb hpb) hle
    have hnotb : b ∉ before.filter p := fun h => hbefore b (List.mem_filter.1 h).1 hpb heq
    have hnota : a ∉ before.filter p := fun h => hbefore a (List.mem_filter.1 h).1 hpa rfl
    rw [List.filter_append, List.filter_cons_of_pos hpa, List.idxOf_append_of_notMem hnota,
      List.idxOf_append_of_notMem hnotb, List.idxOf_cons_self]
    omega

/-- A row is of the category, and its tier lies between the lowest and the requested one, or is the
lowest when that is requested or a lower one. -/
structure Equipment.Suits (row : Equipment) (category : String) (tier : Nat) : Prop where
  category_eq : row.category = category
  lowest_le : 7 ≤ row.tier
  le_highest : row.tier ≤ max tier 7

namespace ItemTables

theorem isWithinTier_iff {category : String} {tier : Nat} {row : Equipment} :
    isWithinTier category tier row = true ↔ row.Suits category tier := by
  simp only [isWithinTier, Bool.and_eq_true, decide_eq_true_eq]
  exact ⟨fun h => ⟨h.1.1, h.1.2, h.2⟩, fun h => ⟨⟨h.category_eq, h.lowest_le⟩, h.le_highest⟩⟩

/-- Keeping the better row finds the first of the highest tier. -/
theorem equipment?_eq_argmax (t : ItemTables) (category : String) (tier : Nat) :
    t.equipment? category tier =
      (t.equipment.filter (isWithinTier category tier)).argmax Equipment.tier := by
  have hstep : betterRow = List.argAux fun b c : Equipment => c.tier < b.tier := by
    funext best row
    cases best <;> rfl
  rw [equipment?, hstep]
  rfl

/-! ### From the highest tier down -/

/-- The first row of a category at the highest of `count` tiers that has one; the lowest of them
is the lowest tier, and they are tried from the top. -/
def firstDown (rows : List Equipment) (category : String) (count : Nat) : Option Equipment :=
  (List.range' lowestTier count).reverse.findSome? fun tier =>
    rows.find? fun row => row.category = category && row.tier = tier

theorem firstDown_succ (rows : List Equipment) (category : String) (count : Nat) :
    firstDown rows category (count + 1) =
      ((rows.find? fun row => row.category = category && row.tier = lowestTier + count) <|>
        firstDown rows category count) := by
  rw [firstDown, List.range'_concat, List.reverse_append, List.reverse_singleton,
    List.singleton_append, List.findSome?_cons, Nat.one_mul, firstDown]
  cases rows.find? fun row => row.category = category && row.tier = lowestTier + count <;> rfl

/-- Whether a row is of the category and of one of `count` tiers from the lowest on. -/
def isAmong (category : String) (count : Nat) (row : Equipment) : Bool :=
  row.category = category && lowestTier ≤ row.tier && row.tier < lowestTier + count

theorem isAmong_iff {category : String} {count : Nat} {row : Equipment} :
    isAmong category count row = true ↔
      row.category = category ∧ lowestTier ≤ row.tier ∧ row.tier < lowestTier + count := by
  simp only [isAmong, Bool.and_eq_true, decide_eq_true_eq, and_assoc]

/-- **The tiers tried one by one, from the top, come to the first row of the highest tier.** -/
theorem firstDown_eq_argmax (rows : List Equipment) (category : String) (count : Nat) :
    firstDown rows category count =
      (rows.filter (isAmong category count)).argmax Equipment.tier := by
  induction count with
  | zero =>
    have hnone : rows.filter (isAmong category 0) = [] := by
      rw [List.filter_eq_nil_iff]
      intro row _ h
      have hbounds := (isAmong_iff.1 h).2
      omega
    rw [hnone]
    rfl
  | succ count ih =>
    rw [firstDown_succ]
    cases hfind : rows.find? fun row =>
        row.category = category && row.tier = lowestTier + count with
    | some row =>
      obtain ⟨hrow, before, after, rfl, hbefore⟩ := List.find?_eq_some_iff_append.1 hfind
      simp only [Bool.and_eq_true, decide_eq_true_eq] at hrow
      refine (argmax_filter_eq_some_iff.2 ⟨before, after, rfl, isAmong_iff.2 ⟨hrow.1, ?_, ?_⟩,
        fun other _ h => ?_, fun other hother h heq => ?_⟩).symm
      · omega
      · omega
      · have hlt := (isAmong_iff.1 h).2.2
        omega
      · have hnot := hbefore other hother
        simp [(isAmong_iff.1 h).1, heq, hrow.2] at hnot
    | none =>
      -- no row has the tier on top, so it makes no difference
      have hsame : ∀ row ∈ rows,
          isAmong category count row = isAmong category (count + 1) row := by
        intro row hrow
        have hnot : row.category = category → row.tier ≠ lowestTier + count := by
          simpa using List.find?_eq_none.1 hfind row hrow
        rw [Bool.eq_iff_iff, isAmong_iff, isAmong_iff]
        constructor
        · rintro ⟨hcategory, hle, hlt⟩
          exact ⟨hcategory, hle, by omega⟩
        · rintro ⟨hcategory, hle, hlt⟩
          have hne := hnot hcategory
          exact ⟨hcategory, hle, by omega⟩
      rw [← List.filter_congr hsame, ← ih]
      rfl

/-! ### All together -/

/-- **The equipment shown is the first row of the highest tier that suits the request**; there is
none exactly when no row suits it.  Stepping down from the requested tier finds the same. -/
theorem equipment?_highest (t : ItemTables) (category : String) (tier : Nat) :
    (∀ row, t.equipment? category tier = some row ↔
      ∃ before after, t.equipment = before ++ row :: after ∧ row.Suits category tier ∧
        (∀ other ∈ t.equipment, other.Suits category tier → other.tier ≤ row.tier) ∧
        ∀ other ∈ before, other.Suits category tier → other.tier ≠ row.tier) ∧
    (t.equipment? category tier = none ↔ ∀ row ∈ t.equipment, ¬row.Suits category tier) ∧
    t.equipment? category tier = firstDown t.equipment category (max tier 7 + 1 - 7) := by
  refine ⟨fun row => ?_, ?_, ?_⟩
  · rw [equipment?_eq_argmax, argmax_filter_eq_some_iff]
    simp only [isWithinTier_iff]
  · rw [equipment?_eq_argmax, List.argmax_eq_none, List.filter_eq_nil_iff]
    simp only [isWithinTier_iff]
  · rw [equipment?_eq_argmax, firstDown_eq_argmax]
    congr 1
    refine List.filter_congr fun row _ => ?_
    rw [Bool.eq_iff_iff, isWithinTier_iff, isAmong_iff, lowestTier]
    constructor
    · rintro ⟨hcategory, hle, hhighest⟩
      exact ⟨hcategory, hle, by omega⟩
    · rintro ⟨hcategory, hle, hlt⟩
      exact ⟨hcategory, hle, by omega⟩

/-- A request between two tiers, and one below all of them. -/
example :
    let rows : List Equipment := [⟨1, "Hat", 6, "", ""⟩, ⟨2, "Hat", 10, "", ""⟩,
      ⟨3, "Hat", 8, "", ""⟩, ⟨4, "Bag", 9, "", ""⟩, ⟨5, "Hat", 8, "", ""⟩]
    ((ofRows [] [] rows).equipment? "Hat" 9).map Equipment.id = some 3 ∧
      (ofRows [] [] rows).equipment? "Hat" 3 = none := by
  decide +kernel

end ItemTables
end DialogueSheet
