/-
# Rows of a table

A table is read whole or not at all: one unreadable row makes it unreadable.  A row is looked up by
a key, and found by it if no other row has the same key (`find?_key_eq_some`).
-/
import DialogueSheet.Student.Decode
import Mathlib.Data.List.Forall2
import Mathlib.Data.List.Pairwise

namespace DialogueSheet

variable {α β : Type}

/-- A list is mapped if every element is. -/
theorem mapM_eq_some_iff {f : α → Option β} {xs : List α} {ys : List β} :
    xs.mapM f = some ys ↔ List.Forall₂ (fun x y => f x = some y) xs ys := by
  induction xs generalizing ys with
  | nil => simp [eq_comm]
  | cons x xs ih =>
    simp only [List.mapM_cons, Option.bind_eq_bind, Option.pure_def, Option.bind_eq_some_iff,
      Option.some.injEq]
    constructor
    · rintro ⟨y, hy, ys, hys, rfl⟩
      exact .cons hy (ih.1 hys)
    · rintro (_ | ⟨hy, hys⟩)
      exact ⟨_, hy, _, ih.2 hys, rfl⟩

theorem exists_mapM_eq_some {f : α → Option β} {xs : List α} (h : ∀ x ∈ xs, ∃ y, f x = some y) :
    ∃ ys, xs.mapM f = some ys := by
  induction xs with
  | nil => exact ⟨[], rfl⟩
  | cons x xs ih =>
    obtain ⟨y, hy⟩ := h x List.mem_cons_self
    obtain ⟨ys, hys⟩ := ih fun x hx => h x (List.mem_cons_of_mem _ hx)
    exact ⟨y :: ys, mapM_eq_some_iff.2 (.cons hy (mapM_eq_some_iff.1 hys))⟩

theorem mapM_eq_none {f : α → Option β} {xs : List α} {x : α} (hx : x ∈ xs) (h : f x = none) :
    xs.mapM f = none := by
  induction xs with
  | nil => cases hx
  | cons y xs ih =>
    rw [List.mapM_cons]
    rcases List.mem_cons.1 hx with rfl | hx
    · simp [h]
    · simp [ih hx]

theorem Json.rowsOf?_eq_some_iff {item : Json → Option α} {v : Json} {rows : List α} :
    v.rowsOf? item = some rows ↔ List.Forall₂ (fun row r => item row = some r) v.rows rows :=
  mapM_eq_some_iff

/-! ### Looking a row up -/

/-- Of entries no two of which are sought, the one that is sought is found. -/
theorem find?_eq_some_iff_mem {p : α → Bool} {l : List α} {a : α}
    (h : l.Pairwise fun b c => ¬(p b = true ∧ p c = true)) :
    l.find? p = some a ↔ a ∈ l ∧ p a = true := by
  constructor
  · intro hfind
    exact ⟨List.mem_of_find?_eq_some hfind, List.find?_some hfind⟩
  · rintro ⟨ha, hpa⟩
    induction l with
    | nil => simp at ha
    | cons b rest ih =>
      rw [List.pairwise_cons] at h
      rcases List.mem_cons.1 ha with rfl | ha
      · exact List.find?_cons_of_pos hpa
      · have hpb : ¬p b = true := fun hpb => h.1 a ha ⟨hpb, hpa⟩
        rw [List.find?_cons_of_neg hpb]
        exact ih h.2 ha

/-- A row is found by its key when no two rows have the same. -/
theorem find?_key_eq_some [DecidableEq β] {key : α → β} {rows : List α}
    (hkeys : (rows.map key).Nodup) {row : α} (hrow : row ∈ rows) :
    rows.find? (fun other => key other = key row) = some row := by
  have hunique : rows.Pairwise fun a b =>
      ¬(decide (key a = key row) = true ∧ decide (key b = key row) = true) := by
    refine (List.pairwise_map.1 hkeys).imp fun {a b} hne h => hne ?_
    rw [of_decide_eq_true h.1, of_decide_eq_true h.2]
  exact (find?_eq_some_iff_mem hunique).2 ⟨hrow, by simp⟩

end DialogueSheet
