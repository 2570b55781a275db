/-
# What thinning keeps

`Thinned clash kept found result` says, entry by entry, that `result` is what is
kept of `found` after `kept`: an entry stays exactly when it clashes with no entry
kept before it.  `thin` computes just that (`thinned_thin`).  The kept entries come
from those found in their order, and every entry found is kept or clashes with one
that is.
-/
import DialogueSheet.Catalog.Thinning

namespace DialogueSheet

variable {α : Type} {R : α → α → Prop}

/-- What is kept of entries after others were kept. -/
inductive Thinned (R : α → α → Prop) : (kept found result : List α) → Prop where
  | nil {kept : List α} : Thinned R kept [] []
  | keep {kept found result : List α} {a : α} (hfree : ∀ k ∈ kept, ¬R k a)
      (hrest : Thinned R (kept ++ [a]) found result) : Thinned R kept (a :: found) (a :: result)
  | drop {kept found result : List α} {a : α} (hclash : ∃ k ∈ kept, R k a)
      (hrest : Thinned R kept found result) : Thinned R kept (a :: found) result

namespace Thinned

/-- What is kept was found, in the order in which it was found. -/
theorem sublist {kept found result : List α} (h : Thinned R kept found result) :
    result.Sublist found := by
  induction h with
  | nil => exact List.Sublist.refl _
  | keep _ _ ih => exact ih.cons_cons _
  | drop _ _ ih => exact ih.cons _

/-- Every entry found is kept or clashes with one that is. -/
theorem represented (hrefl : ∀ a, R a a) {kept found result : List α}
    (h : Thinned R kept found result) {a : α} (ha : a ∈ found) : ∃ k ∈ kept ++ result, R k a := by
  induction h with
  | nil => simp at ha
  | @keep kept found result b _ _ ih =>
    rcases List.mem_cons.1 ha with rfl | ha
    · exact ⟨a, by simp, hrefl a⟩
    · obtain ⟨k, hk, hka⟩ := ih ha
      exact ⟨k, by simpa using hk, hka⟩
  | drop hclash _ ih =>
    rcases List.mem_cons.1 ha with rfl | ha
    · obtain ⟨k, hk, hka⟩ := hclash
      exact ⟨k, List.mem_append_left _ hk, hka⟩
    · exact ih ha

end Thinned

theorem keep_eq {clash : α → α → Bool} (hclash : ∀ a b, clash a b = true ↔ R a b)
    (kept : List α) (a : α) :
    ((∀ k ∈ kept, ¬R k a) ∧ keep clash kept a = kept ++ [a]) ∨
      ((∃ k ∈ kept, R k a) ∧ keep clash kept a = kept) := by
  unfold keep
  split
  · rename_i hany
    obtain ⟨k, hk, hka⟩ := List.any_eq_true.1 hany
    exact Or.inr ⟨⟨k, hk, (hclash k a).1 hka⟩, rfl⟩
  · rename_i hany
    exact Or.inl ⟨fun k hk hka => hany (List.any_eq_true.2 ⟨k, hk, (hclash k a).2 hka⟩), rfl⟩

/-- **`thin` keeps an entry exactly when no entry kept before clashes with it.** -/
theorem exists_thinned {clash : α → α → Bool} (hclash : ∀ a b, clash a b = true ↔ R a b)
    (kept found : List α) :
    ∃ result, thin clash kept found = kept ++ result ∧ Thinned R kept found result := by
  induction found generalizing kept with
  | nil => exact ⟨[], by simp [thin], .nil⟩
  | cons a found ih =>
    have hstep : thin clash kept (a :: found) = thin clash (keep clash kept a) found := rfl
    rcases keep_eq hclash kept a with ⟨hfree, hkeep⟩ | ⟨hsome, hkeep⟩
    · obtain ⟨result, hresult, hrest⟩ := ih (kept ++ [a])
      exact ⟨a :: result, by rw [hstep, hkeep, hresult]; simp, .keep hfree hrest⟩
    · obtain ⟨result, hresult, hrest⟩ := ih kept
      exact ⟨result, by rw [hstep, hkeep, hresult], .drop hsome hrest⟩

theorem thinned_thin {clash : α → α → Bool} (hclash : ∀ a b, clash a b = true ↔ R a b)
    (found : List α) : Thinned R [] found (thin clash [] found) := by
  obtain ⟨result, hresult, h⟩ := exists_thinned hclash [] found
  rw [hresult]
  exact h

end DialogueSheet
