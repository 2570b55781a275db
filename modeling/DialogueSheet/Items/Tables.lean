/-
# Tables of items

The Japanese rows decide what belongs to a table, the Chinese rows are shown
where they exist.  Equipment has Japanese rows only.
-/
import DialogueSheet.Items.Record
import DialogueSheet.Localization.Tables

namespace DialogueSheet

/-- The rows of a data file; none when it is missing or has an unreadable row. -/
def tableRows {α : Type} (files : Files) (root : AssetRoot) (language : Language) (file : String)
    (item : Json → Option α) : List α :=
  ((files.readText? (root.dataFile language file) >>= Json.parse?) >>= Json.rowsOf? item).getD []

/-- The item tables. -/
structure ItemTables where
  items : List Item
  shownItems : List Item
  furniture : List Furniture
  shownFurniture : List Furniture
  equipment : List Equipment

namespace ItemTables

/-- Tables without rows of their own to show. -/
def ofRows (items : List Item) (furniture : List Furniture) (equipment : List Equipment) :
    ItemTables :=
  ⟨items, [], furniture, [], equipment⟩

/-- The tables in the data files. -/
def load (files : Files) (root : AssetRoot) : ItemTables where
  items := tableRows files root .jp "items" Item.ofJson?
  shownItems := tableRows files root .cn "items" Item.ofJson?
  furniture := tableRows files root .jp "furniture" Furniture.ofJson?
  shownFurniture := tableRows files root .cn "furniture" Furniture.ofJson?
  equipment := tableRows files root .jp "equipment" Equipment.ofJson?

/-- The category of gifts. -/
def giftCategory : String := "Favor"

/-- Whether an item is a gift with one of the tags. -/
def isFavored (tags : List String) (item : Item) : Bool :=
  item.category = giftCategory && item.tags.any tags.contains

/-- The gifts with one of the tags, in table order, each by its shown row if there is one. -/
def favorsByTags (t : ItemTables) (tags : List String) : List Item :=
  (t.items.filter (isFavored tags)).map fun item =>
    (t.shownItems.find? (·.id = item.id)).getD item

/-- The item with an id. -/
def item? (t : ItemTables) (id : Nat) : Option Item :=
  (t.shownItems ++ t.items).find? (·.id = id)

/-- The furniture with an id. -/
def furniture? (t : ItemTables) (id : Nat) : Option Furniture :=
  (t.shownFurniture ++ t.furniture).find? (·.id = id)

/-- The lowest tier at which equipment is shown. -/
def lowestTier : Nat := 7

/-- Whether a row has the category and a tier from the lowest up to `tier`, or
the lowest when `tier` lies below it. -/
def isWithinTier (category : String) (tier : Nat) (row : Equipment) : Bool :=
  row.category = category && lowestTier ≤ row.tier && row.tier ≤ max tier lowestTier

/-- The better of two rows: the one of the higher tier, the earlier of equal ones. -/
def betterRow (best : Option Equipment) (row : Equipment) : Option Equipment :=
  match best with
  | some b => if b.tier < row.tier then some row else some b
  | none => some row

/-- The equipment of a category at a tier, or at the next lower tier that has a row. -/
def equipment? (t : ItemTables) (category : String) (tier : Nat) : Option Equipment :=
  (t.equipment.filter (isWithinTier category tier)).foldl betterRow none

end ItemTables
end DialogueSheet
