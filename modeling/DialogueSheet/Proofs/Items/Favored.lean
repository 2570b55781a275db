/-
# Gifts by their tags

The reference table decides which gifts a student likes and in which order: the rows of the
category of gifts with one of the tags (`Item.Pleases`).  Each is shown by the first row of the
other table with its id, and by itself where that table has none (`ItemTables.Shows`).

| looked up | among |
| --- | --- |
| the gifts of some tags | the reference rows, each shown by the row of its id |
| the item of an id | the shown rows, then the reference rows |

Both come to the same row when no two reference rows have one id (`Shows.item?_eq`).
-/
import DialogueSheet.Items.Tables
import DialogueSheet.Proofs.Json.Rows

namespace DialogueSheet

/-- The item is a gift, and one of its tags is among these. -/
structure Item.Pleases (item : Item) (tags : List String) : Prop where
  category_eq : item.category = "Favor"
  exists_tag : ∃ tag ∈ item.tags, tag ∈ tags

theorem Item.Pleases.mono {item : Item} {tags more : List String} (h : item.Pleases tags)
    (hmore : tags ⊆ more) : item.Pleases more :=
  have ⟨tag, htag, hmem⟩ := h.exists_tag
  ⟨h.category_eq, tag, htag, hmore hmem⟩

namespace ItemTables

theorem isFavored_iff {tags : List String} {item : Item} :
    isFavored tags item = true ↔ item.Pleases tags := by
  simp only [isFavored, Bool.and_eq_true, decide_eq_true_eq, List.any_eq_true,
    List.contains_iff_mem]
  exact ⟨fun h => ⟨h.1, h.2⟩, fun h => ⟨h.category_eq, h.exists_tag⟩⟩

instance (tags : List String) (item : Item) : Decidable (item.Pleases tags) :=
  decidable_of_iff _ isFavored_iff

/-! ### What a row is shown by -/

/-- The row that an item of the reference table is shown by. -/
inductive Shows (t : ItemTables) (item : Item) : Item → Prop
  /-- The first of the shown rows with its id. -/
  | first {before after : List Item} {row : Item} (split : t.shownItems = before ++ row :: after)
      (id_eq : row.id = item.id) (earlier : ∀ other ∈ before, other.id ≠ item.id) : Shows t item row
  /-- The item itself, where none of them has its id. -/
  | itself (none_has : ∀ other ∈ t.shownItems, other.id ≠ item.id) : Shows t item item

/-- The row that an item of the reference table is shown by. -/
def shownFor (t : ItemTables) (item : Item) : Item :=
  (t.shownItems.find? (·.id = item.id)).getD item

theorem favorsByTags_eq (t : ItemTables) (tags : List String) :
    t.favorsByTags tags = (t.items.filter (·.Pleases tags)).map t.shownFor := by
  have hsame : ∀ item ∈ t.items, isFavored tags item = decide (item.Pleases tags) := by
    intro item _
    rw [Bool.eq_iff_iff, isFavored_iff, decide_eq_true_iff]
  rw [favorsByTags, List.filter_congr hsame]
  rfl

theorem shows_shownFor (t : ItemTables) (item : Item) : t.Shows item (t.shownFor item) := by
  unfold shownFor
  cases hfind : t.shownItems.find? (·.id = item.id) with
  | some row =>
    obtain ⟨hid, before, after, hsplit, hbefore⟩ := List.find?_eq_some_iff_append.1 hfind
    exact .first hsplit (by simpa using hid) fun other hother => by simpa using hbefore other hother
  | none => exact .itself fun other hother => by simpa using List.find?_eq_none.1 hfind other hother

/-- A row is shown with its own id, whichever row it is shown by. -/
theorem Shows.id_eq {t : ItemTables} {item row : Item} (h : t.Shows item row) :
    row.id = item.id := by
  cases h with
  | first _ hid _ => exact hid
  | itself _ => rfl

theorem Shows.mem_of_id_eq {t : ItemTables} {item shown row : Item} (h : t.Shows item shown)
    (hrow : row ∈ t.shownItems) (hid : row.id = item.id) : shown ∈ t.shownItems := by
  cases h with
  | first hsplit _ _ =>
    rw [hsplit]
    exact List.mem_append_right _ List.mem_cons_self
  | itself hnone => exact absurd hid (hnone row hrow)

/-- **An item looked up by its id is the row that the reference row is shown by**, when that is the
only reference row of its id. -/
theorem Shows.item?_eq {t : ItemTables} (hids : (t.items.map Item.id).Nodup) {item row : Item}
    (hitem : item ∈ t.items) (h : t.Shows item row) : t.item? row.id = some row := by
  rw [h.id_eq, item?, List.find?_append]
  cases h with
  | first hsplit hid hbefore =>
    have hfind : t.shownItems.find? (·.id = item.id) = some row :=
      List.find?_eq_some_iff_append.2
        ⟨by simpa using hid, _, _, hsplit, fun other hother => by simpa using hbefore other hother⟩
    rw [hfind, Option.some_or]
  | itself hnone =>
    have hfind : t.shownItems.find? (·.id = item.id) = none :=
      List.find?_eq_none.2 fun other hother => by simpa using hnone other hother
    rw [hfind, Option.none_or, find?_key_eq_some hids hitem]

/-! ### All together -/

/-- **The gifts of some tags are the reference rows that please, each by the row it is shown by.**
More tags bring more of them in between and take none away.  When no two reference rows have one
id, each is what the item of its id is. -/
theorem favorsByTags_shown (t : ItemTables) :
    (∀ tags, List.Forall₂ t.Shows (t.items.filter (·.Pleases tags)) (t.favorsByTags tags)) ∧
    (∀ tags more, tags ⊆ more → (t.favorsByTags tags).Sublist (t.favorsByTags more)) ∧
    ((t.items.map Item.id).Nodup →
      ∀ tags, ∀ row ∈ t.favorsByTags tags, t.item? row.id = some row) := by
  refine ⟨fun tags => ?_, fun tags more hmore => ?_, fun hids tags row hrow => ?_⟩
  · rw [favorsByTags_eq, List.forall₂_map_right_iff, List.forall₂_same]
    exact fun item _ => t.shows_shownFor item
  · rw [favorsByTags_eq, favorsByTags_eq]
    refine (List.monotone_filter_right t.items fun item h => ?_).map t.shownFor
    exact decide_eq_true ((of_decide_eq_true h).mono hmore)
  · rw [favorsByTags_eq] at hrow
    obtain ⟨item, hitem, rfl⟩ := List.mem_map.1 hrow
    exact (t.shows_shownFor item).item?_eq hids (List.mem_filter.1 hitem).1

/-- One gift by the first of two rows of its id, one by itself, and one that a further tag brings in
between. -/
theorem favorsByTags_shown_of_three :
    let gift (id : Nat) (tags : List String) (name : String) : Item :=
      { id, category := "Favor", tags, name }
    let t : ItemTables := {
      items := [gift 4 ["Sweet"] "d", gift 2 ["Game"] "b",
        { gift 3 ["Sweet"] "c" with category := "" }, gift 1 ["Cute", "Sweet"] "a"]
      shownItems := [gift 9 ["Sweet"] "i", gift 4 [] "D", gift 4 ["Sweet"] "d2"]
      furniture := []
      shownFurniture := []
      equipment := [] }
    (t.items.map Item.id).Nodup ∧ ["Sweet"] ⊆ ["Game", "Sweet"] ∧
      (t.favorsByTags ["Sweet"]).map Item.name = ["D", "a"] ∧
      (t.favorsByTags ["Game", "Sweet"]).map Item.name = ["D", "b", "a"] ∧
      (t.favorsByTags ["Sweet"]).Sublist (t.favorsByTags ["Game", "Sweet"]) ∧
      ∀ row ∈ t.favorsByTags ["Sweet"], t.item? row.id = some row := by
  intro gift t
  have hids : (t.items.map Item.id).Nodup := by decide +kernel
  have hmore : ["Sweet"] ⊆ ["Game", "Sweet"] := by decide +kernel
  obtain ⟨-, hinserted, hfound⟩ := t.favorsByTags_shown
  exact ⟨hids, hmore, by decide +kernel, by decide +kernel, hinserted _ _ hmore, hfound hids _⟩

end ItemTables
end DialogueSheet
