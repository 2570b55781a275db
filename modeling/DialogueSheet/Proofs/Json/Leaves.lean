/-
# The leaves of nested arrays

A value has places: the indices of the items gone into, the outermost first.  What stands at a place
is a leaf if it is no array; nothing goes into an object, so it is one leaf with all its fields.
From left to right means by places in lexicographic order.

| value | leaves | their places |
| --- | --- | --- |
| `5` | `5` | the empty one |
| `[[1, "a"], [], [[1]]]` | `1`, `"a"`, `1` | `0 0`, `0 1`, `2 0 0` |

The leaves come from left to right (`leftToRight_leaves`), and so do the ids, which are the leaves
that are whole numbers of 32 bits (`leftToRight_flatIds`).
-/
import DialogueSheet.Student.Decode
import Mathlib.Data.List.Lex
import Mathlib.Data.List.Sort

namespace DialogueSheet
namespace Json

/-- What stands at a place of a value. -/
def at? : Json → List Nat → Option Json
  | v, [] => some v
  | .list items, i :: place => items[i]?.bind (·.at? place)
  | _, _ :: _ => none

/-- The value is no array. -/
def IsLeaf (v : Json) : Prop := ∀ items, v ≠ .list items

/-- The value is a whole number of 32 bits. -/
def IsId (v : Json) : Prop := ∃ n : Nat, v = .whole n ∧ n ≤ 4294967295

/-- `found` is all that stands in `v` and has `P`, from left to right; what stands at two places
is there twice. -/
def LeftToRight (v : Json) (P : Json → Prop) (found : List Json) : Prop :=
  ∃ placed : List (List Nat × Json), placed.map Prod.snd = found ∧
    (placed.Pairwise fun a b => a.1 < b.1) ∧
    ∀ place x, (place, x) ∈ placed ↔ v.at? place = some x ∧ P x

/-- The places leave no choice of what is found, nor of its order. -/
theorem LeftToRight.unique {v : Json} {P : Json → Prop} {found others : List Json}
    (h : v.LeftToRight P found) (hothers : v.LeftToRight P others) : found = others := by
  obtain ⟨placed, rfl, hlt, hmem⟩ := h
  obtain ⟨placed', rfl, hlt', hmem'⟩ := hothers
  have hirrefl : Std.Irrefl fun a b : List Nat × Json => a.1 < b.1 := ⟨fun a => lt_irrefl a.1⟩
  have hasymm : Std.Asymm fun a b : List Nat × Json => a.1 < b.1 := ⟨fun _ _ => lt_asymm⟩
  rw [hlt.eq_of_mem_iff hlt' fun a => (hmem a.1 a.2).trans (hmem' a.1 a.2).symm]

mutual

/-- The leaves of a value with their places. -/
def placedLeaves : Json → List (List Nat × Json)
  | .list items => placedLeavesFrom 0 items
  | v => [([], v)]

/-- The leaves of items, the first of which has the index `i`, with their places. -/
def placedLeavesFrom (i : Nat) : List Json → List (List Nat × Json)
  | [] => []
  | v :: vs => v.placedLeaves.map (Prod.map (i :: ·) id) ++ placedLeavesFrom (i + 1) vs

end

/-- The leaves of a value, from left to right. -/
def leaves (v : Json) : List Json := v.placedLeaves.map Prod.snd

/-- Induction on a value through the items of arrays. -/
theorem items_induction {motive : Json → Prop} (leaf : ∀ v, IsLeaf v → motive v)
    (list : ∀ items, (∀ v ∈ items, motive v) → motive (.list items)) : ∀ v, motive v
  | .list items => list items fun v _ => items_induction leaf list v
  | .null => leaf _ fun _ => nofun
  | .bool _ => leaf _ fun _ => nofun
  | .whole _ => leaf _ fun _ => nofun
  | .real _ => leaf _ fun _ => nofun
  | .text _ => leaf _ fun _ => nofun
  | .object _ => leaf _ fun _ => nofun

/-! ### Leaves and their places -/

theorem IsLeaf.placedLeaves_eq {v : Json} (h : v.IsLeaf) : v.placedLeaves = [([], v)] := by
  cases v with
  | list items => exact absurd rfl (h items)
  | _ => rfl

theorem IsLeaf.at?_eq_some_iff {v x : Json} (h : v.IsLeaf) {place : List Nat} :
    v.at? place = some x ↔ place = [] ∧ v = x := by
  cases place with
  | nil => simp [at?]
  | cons i place =>
    cases v with
    | list items => exact absurd rfl (h items)
    | _ => simp [at?]

theorem placedLeavesFrom_eq (i : Nat) (vs : List Json) :
    placedLeavesFrom i vs =
      (vs.zipIdx i).flatMap fun (v, i) => v.placedLeaves.map (Prod.map (i :: ·) id) := by
  induction vs generalizing i with
  | nil => rfl
  | cons v vs ih => rw [placedLeavesFrom, ih, List.zipIdx_cons, List.flatMap_cons]

theorem placedLeaves_list (items : List Json) :
    (list items).placedLeaves =
      items.zipIdx.flatMap fun (v, i) => v.placedLeaves.map (Prod.map (i :: ·) id) :=
  placedLeavesFrom_eq 0 items

theorem mem_placedLeaves_iff {v x : Json} {place : List Nat} :
    (place, x) ∈ v.placedLeaves ↔ v.at? place = some x ∧ x.IsLeaf := by
  induction v using items_induction generalizing place with
  | leaf v hv =>
    rw [hv.placedLeaves_eq, List.mem_singleton, hv.at?_eq_some_iff, Prod.mk.injEq]
    constructor
    · rintro ⟨rfl, rfl⟩
      exact ⟨⟨rfl, rfl⟩, hv⟩
    · rintro ⟨⟨rfl, rfl⟩, -⟩
      exact ⟨rfl, rfl⟩
  | list items ih =>
    rw [placedLeaves_list, List.mem_flatMap]
    constructor
    · rintro ⟨item, hitem, hx⟩
      obtain ⟨⟨rest, y⟩, hrest, heq⟩ := List.mem_map.1 hx
      obtain ⟨rfl, rfl⟩ := Prod.mk.inj heq
      rw [at?, List.mem_zipIdx_iff_getElem?.1 hitem]
      exact (ih _ (List.fst_mem_of_mem_zipIdx hitem)).1 hrest
    · rintro ⟨hat, hleaf⟩
      cases place with
      | nil =>
        obtain rfl := Option.some.inj hat
        exact absurd rfl (hleaf items)
      | cons i rest =>
        obtain ⟨v, hv, hrest⟩ := Option.bind_eq_some_iff.1 hat
        refine ⟨(v, i), List.mem_zipIdx_iff_getElem?.2 hv, List.mem_map.2 ⟨(rest, x), ?_, rfl⟩⟩
        exact (ih v (List.mem_of_getElem? hv)).2 ⟨hrest, hleaf⟩

theorem pairwise_placedLeaves (v : Json) : v.placedLeaves.Pairwise fun a b => a.1 < b.1 := by
  induction v using items_induction with
  | leaf v hv =>
    rw [hv.placedLeaves_eq]
    exact List.pairwise_singleton _ _
  | list items ih =>
    have hindices : (items.zipIdx.map Prod.snd).Pairwise (· < ·) := by
      rw [List.zipIdx_map_snd]
      exact List.pairwise_lt_range'
    rw [placedLeaves_list, List.pairwise_flatMap]
    constructor
    · intro item hitem
      refine List.pairwise_map.2 ((ih _ (List.fst_mem_of_mem_zipIdx hitem)).imp fun hlt => ?_)
      exact List.cons_lt_cons_iff.2 (.inr ⟨rfl, hlt⟩)
    · refine (List.pairwise_map.1 hindices).imp fun {a b} hlt x hx y hy => ?_
      obtain ⟨x, -, rfl⟩ := List.mem_map.1 hx
      obtain ⟨y, -, rfl⟩ := List.mem_map.1 hy
      exact List.cons_lt_cons_iff.2 (.inl hlt)

/-- **The leaves are all that stands in a value and is no array, from left to right.** -/
theorem leftToRight_leaves (v : Json) : v.LeftToRight IsLeaf v.leaves :=
  ⟨v.placedLeaves, rfl, pairwise_placedLeaves v, fun _ _ => mem_placedLeaves_iff⟩

theorem isLeaf_of_mem_leaves {v x : Json} (h : x ∈ v.leaves) : x.IsLeaf := by
  obtain ⟨⟨place, x⟩, hx, rfl⟩ := List.mem_map.1 h
  exact (mem_placedLeaves_iff.1 hx).2

/-- A property that only leaves have is looked for among the leaves. -/
theorem leftToRight_filter_leaves (v : Json) {P : Json → Prop} [DecidablePred P]
    (hP : ∀ x, P x → x.IsLeaf) : v.LeftToRight P (v.leaves.filter P) := by
  refine ⟨v.placedLeaves.filter (P ·.2), ?_, (pairwise_placedLeaves v).filter _, fun place x => ?_⟩
  · rw [leaves, List.filter_map]
    rfl
  · rw [List.mem_filter, mem_placedLeaves_iff, decide_eq_true_iff, and_assoc]
    exact and_congr_right fun _ => and_iff_right_of_imp (hP x)

/-! ### Ids -/

theorem count?_eq_some_iff {high n : Nat} {v : Json} :
    v.count? high = some n ↔ v = .whole n ∧ n ≤ high := by
  cases v with
  | whole i =>
    simp only [count?, within?, Option.map_eq_some_iff, Json.whole.injEq]
    split <;> simp <;> omega
  | _ => simp [count?, within?]

theorem isId_iff {v : Json} : v.IsId ↔ (v.count? Binary.maxCount).isSome := by
  simp only [IsId, Binary.maxCount, Option.isSome_iff_exists, count?_eq_some_iff]

instance : DecidablePred IsId := fun _ => decidable_of_iff _ isId_iff.symm

theorem IsId.isLeaf {v : Json} (h : v.IsId) : v.IsLeaf := by
  obtain ⟨n, rfl, -⟩ := h
  exact fun _ => nofun

theorem IsLeaf.flatIds_eq {v : Json} (h : v.IsLeaf) :
    v.flatIds = (v.count? Binary.maxCount).toList := by
  cases v with
  | list items => exact absurd rfl (h items)
  | whole i =>
    rw [flatIds, count?, within?]
    split <;> rfl
  | _ => rfl

/-- Of leaves, those that are ids stay. -/
theorem map_flatMap_flatIds {xs : List Json} (h : ∀ x ∈ xs, x.IsLeaf) :
    (xs.flatMap flatIds).map (fun n : Nat => Json.whole n) = xs.filter IsId := by
  induction xs with
  | nil => rfl
  | cons x xs ih =>
    obtain ⟨hx, hxs⟩ := List.forall_mem_cons.1 h
    rw [List.flatMap_cons, List.map_append, ih hxs, hx.flatIds_eq]
    cases hcount : x.count? Binary.maxCount with
    | none =>
      have hid : ¬ x.IsId := by simp [isId_iff, hcount]
      rw [List.filter_cons_of_neg (by simpa using hid)]
      rfl
    | some n =>
      have hid : x.IsId := by simp [isId_iff, hcount]
      rw [List.filter_cons_of_pos (by simpa using hid), (count?_eq_some_iff.1 hcount).1]
      rfl

theorem flatIds_list (items : List Json) : (list items).flatIds = items.flatMap flatIds := by
  rw [flatIds]
  induction items with
  | nil => rfl
  | cons v vs ih => rw [flatIdsOf, ih, List.flatMap_cons]

theorem leaves_list (items : List Json) : (list items).leaves = items.flatMap leaves := by
  conv_rhs => rw [← List.zipIdx_map_fst 0 items, List.flatMap_map]
  rw [leaves, placedLeaves_list, List.map_flatMap]
  simp only [List.map_map]
  rfl

/-- The ids of a value are those of its leaves. -/
theorem flatMap_leaves (v : Json) : v.leaves.flatMap flatIds = v.flatIds := by
  induction v using items_induction with
  | leaf v hv => simp [leaves, hv.placedLeaves_eq]
  | list items ih =>
    rw [leaves_list, flatIds_list, List.flatMap_assoc]
    exact List.flatMap_congr ih

/-- **The ids are all that stands in a value and is a whole number of 32 bits, from left to
right.** -/
theorem leftToRight_flatIds (v : Json) :
    v.LeftToRight IsId (v.flatIds.map fun n : Nat => .whole n) := by
  rw [← flatMap_leaves, map_flatMap_flatIds fun _ => isLeaf_of_mem_leaves]
  exact v.leftToRight_filter_leaves fun _ => IsId.isLeaf

end Json
end DialogueSheet
