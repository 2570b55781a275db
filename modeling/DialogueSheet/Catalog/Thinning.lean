/-
# Lists thinned of repetitions

Entries come one after the other, and an entry that clashes with one kept before
it is left out.  A clash with an entry that was itself left out does not count, so
what is kept hangs on the order when clashing is not transitive.
-/

namespace DialogueSheet

variable {α : Type}

/-- The kept entries with one more, unless it clashes with one of them. -/
def keep (clash : α → α → Bool) (kept : List α) (a : α) : List α :=
  if kept.any (clash · a) then kept else kept ++ [a]

/-- The kept entries with those found entries that clash with none kept before. -/
def thin (clash : α → α → Bool) (kept found : List α) : List α := found.foldl (keep clash) kept

theorem pairwise_keep {clash : α → α → Bool} {kept : List α}
    (h : kept.Pairwise fun a b => clash a b = false) (a : α) :
    (keep clash kept a).Pairwise fun a b => clash a b = false := by
  unfold keep
  split
  · exact h
  · rename_i hfree
    have hfree : ∀ k ∈ kept, clash k a = false := by simpa using hfree
    refine List.pairwise_append.2 ⟨h, List.pairwise_singleton .., fun k hk b hb => ?_⟩
    rw [List.mem_singleton.1 hb]
    exact hfree k hk

/-- No two kept entries clash. -/
theorem pairwise_thin {clash : α → α → Bool} {kept : List α}
    (h : kept.Pairwise fun a b => clash a b = false) (found : List α) :
    (thin clash kept found).Pairwise fun a b => clash a b = false := by
  induction found generalizing kept with
  | nil => exact h
  | cons a rest ih => exact ih (pairwise_keep h a)

example : thin (fun a b : Nat => a % 3 == b % 3) [] [1, 4, 2, 6, 5] = [1, 2, 6] := by decide

end DialogueSheet
