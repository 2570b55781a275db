/-
# What a student owns

The weapon beside the equipment, and the welcome gifts beside the furniture.
Gifts and furniture stand in grids of cells, three in a row; a cell without a
picture stays empty.
-/
import DialogueSheet.Card.Panel

namespace DialogueSheet
namespace Card
namespace Subject

/-- The name of the weapon, or its type. -/
def weaponName (s : Subject) : String :=
  match s.student.weapon with
  | some w => if w.name = "" then s.student.weaponType else w.name
  | none => s.student.weaponType

/-- Adds the picture of the weapon to a column, if it is there. -/
def addWeaponPicture (s : Subject) (c : Strip) : Except Failure Strip :=
  match s.icon? .weapon s.student.weaponImage ⟨columnWidth - 24, 96⟩ with
  | none => .ok c
  | some p =>
    let left := margin + centeredOffset columnWidth p.size.width
    .ok (c.grown [.ofPicture p left c.height] (p.size.height + 8))

/-- Adds the name of the weapon to a column, unless it is empty. -/
def addWeaponName (s : Subject) (c : Strip) : Except Failure Strip :=
  if s.weaponName = "" then .ok c
  else do
    let t ← s.setText ((TextRequest.plain s.weaponName 24 darkText).withWidth
      (columnWidth - 24)).centered
    let left := margin + centeredOffset columnWidth t.size.width
    return c.grown [.ofText t left c.height] (t.size.height + 8)

/-- The column of the weapon. -/
def weapon (s : Subject) : Except Failure Strip := do
  let c ← s.column "Weapon" margin
  let c ← s.addWeaponPicture c
  s.addWeaponName c

/-- The tier of which equipment is shown. -/
def shownTier : Nat := 9

/-- The name of equipment of a category, or the category. -/
def equipmentName (s : Subject) (category : String) : String :=
  match s.resources.items.equipment? category shownTier with
  | some e => if e.name = "" then category else e.name
  | none => category

/-- The row of equipment of a category. -/
def equipmentRow (s : Subject) (category : String) (t : SetText) (top : Nat) : List Primitive :=
  (s.icon? .equipment category ⟨40, 40⟩).toList.map
      (Primitive.ofPicture · (secondColumn + padding : Nat) top)
    ++ [.ofText t (secondColumn + 60 : Nat) (top + (40 - t.size.height) / 2)]

/-- Adds equipment of a category to a column. -/
def addEquipment (s : Subject) (c : Strip) (category : String) : Except Failure Strip := do
  let t ← s.setText ((TextRequest.plain (s.equipmentName category) 22 darkText).withWidth
    (columnWidth - 72))
  return c.grown (s.equipmentRow category t c.height) (max t.size.height 40 + 8)

/-- The column of the equipment. -/
def equipment (s : Subject) : Except Failure Strip := do
  let c ← s.column "Equipment" secondColumn
  s.student.equipment.foldlM s.addEquipment c

/-- Places the weapon and the equipment. -/
def placeArms (s : Subject) (f : Flow) : Except Failure Flow := do
  let weapon ← s.weapon
  let equipment ← s.equipment
  placeTwinPanels weapon equipment f

end Subject

/-- The cell with an index in a grid that starts at `top`, with its picture in the middle. -/
def gridCellAt (left top index : Nat) (icon : Option Picture) : List Primitive :=
  let x := left + padding + index % gridColumns * gridStride
  let y := top + index / gridColumns * gridStride
  .ofShape (.rounded gridCell gridCell 8 cellFill) x y :: icon.toList.map fun p =>
    let size := p.size.fitWithin ⟨gridCell - 8, gridCell - 8⟩
    .ofPicture { p with size := size } (x + (gridCell - size.width) / 2 : Nat)
      (y + (gridCell - size.height) / 2)

/-- The number of rows of a grid. -/
def gridRows (count : Nat) : Nat := (count + gridColumns - 1) / gridColumns

/-- The cells of a grid that starts at `top`. -/
def gridCells (left : Nat) (icons : List (Option Picture)) (top : Nat) : List Primitive :=
  icons.zipIdx.flatMap fun (icon, index) => gridCellAt left top index icon

namespace Subject

/-- The column of a grid, or of a text when there is nothing. -/
def gridColumn (s : Subject) (key : String) (left : Nat) (icons : List (Option Picture)) :
    Except Failure Strip := do
  let c ← s.column key left
  if icons.isEmpty then
    let t ← s.setText (.plain (s.label "None") 22 mutedText)
    return c.grown [.ofText t (left + padding : Nat) c.height] (t.size.height + 12)
  else return c.grown (gridCells left icons c.height) (gridRows icons.length * gridStride + 4)

/-- The welcome gifts, as they are shown. -/
def giftItems (s : Subject) : List Item :=
  s.resources.items.favorsByTags s.student.favorTags

/-- What the pictures of the gifts and of the furniture are fetched by, in one batch.  Each piece of
furniture is fetched once. -/
def giftBatch (s : Subject) : List (AssetKind × String) :=
  s.giftItems.map (fun item => (.item, toString item.id))
    ++ s.student.furniture.eraseDups.map fun id => (.furniture, toString id)

/-- The pictures of the gifts and those of the furniture: the answers to the batch, split at the
number of gifts. -/
def giftAnswers (s : Subject) : List (Option Picture) × List (Option Picture) :=
  (s.giftBatch.map fun (kind, name) => s.resources.picture? kind name).splitAt s.giftItems.length

/-- Places the gifts and the furniture. -/
def placeGifts (s : Subject) (f : Flow) : Except Failure Flow := do
  let (giftIcons, furnitureIcons) := s.giftAnswers
  let gifts ← s.gridColumn "FavorItems" margin giftIcons
  let furniture ← s.gridColumn "Furniture" secondColumn furnitureIcons
  placeTwinPanels gifts furniture f

end Subject
end Card
end DialogueSheet
