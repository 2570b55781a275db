/-
# The head of a card

The portrait, the name with the school and the club, and a row of chips.  Chips
go from left to right; one that would end beyond the limit starts a new row,
unless it is the first of its row.  The cover icon stands at the right end and
moves the limit to its left.
-/
import DialogueSheet.Card.Panel

namespace DialogueSheet
namespace Card
namespace Subject

/-- Places the portrait, or leaves some space instead. -/
def placePortrait (s : Subject) (f : Flow) : Except Failure Flow :=
  let top := f.cursor
  match s.icon? .portrait s.student.devName ⟨innerWidth, portraitHeight⟩ with
  | none => .ok (f.advance portraitGap)
  | some p => do
    let f ← f.put [.ofPicture p (centeredOffset canvasWidth p.size.width) top]
    return f.advance (p.size.height + sectionGap)

/-- The school and the club, as far as they are known. -/
def affiliation (s : Subject) : String :=
  let known := [("SchoolLong", s.student.school), ("Club", s.student.club)].filter (·.2 ≠ "")
  String.intercalate " · " (known.map fun (table, value) => s.term table value)

/-- The row of the emblem, the name and the affiliation. -/
def identityRow (s : Subject) (name sub : SetText) (top : Nat) : List Primitive :=
  let textLeft : Nat := margin + 60
  (s.icon? .school s.student.school ⟨iconSide, iconSide⟩).toList.map
      (Primitive.ofPicture · margin top)
    ++ [.ofText name textLeft top, .ofText sub textLeft (top + name.size.height + 4)]

/-- Places the emblem, the name and the affiliation. -/
def placeIdentity (s : Subject) (f : Flow) : Except Failure Flow := do
  let top := f.cursor
  let name ← s.setText ((TextRequest.plain s.student.name 40 darkText).withWidth
    (innerWidth - 72)).inHeading
  let sub ← s.setText ((TextRequest.plain s.affiliation 24 mutedText).withWidth (innerWidth - 72))
  let f ← f.put (s.identityRow name sub top)
  return f.advance (max (name.size.height + 4 + sub.size.height) iconSide + sectionGap)

end Subject

/-- A measured text on a ground of its own color. -/
structure Chip where
  text : SetText
  fill : Color

namespace Chip

/-- The box of a chip: its text with a rim. -/
def size (c : Chip) : Size := ⟨c.text.size.width + 24, c.text.size.height + 12⟩

/-- The primitives of a chip at an offset. -/
def primitives (c : Chip) (left top : Nat) : List Primitive := [
  .ofShape (.rounded c.size.width c.size.height (Binary.ofNat c.size.height / 2) c.fill) left top,
  .ofText c.text (left + 12 : Nat) (top + 6)]

end Chip

/-- Where the next chip of a row goes, and the height of the row so far. -/
structure ChipRow where
  left : Nat
  top : Nat
  height : Nat
deriving DecidableEq, Repr

namespace ChipRow

/-- The first row. -/
def first : ChipRow := ⟨margin, 0, 0⟩

/-- The row that takes a chip of a width. -/
def taking (r : ChipRow) (limit width : Nat) : ChipRow :=
  if margin < r.left ∧ limit < r.left + width then ⟨margin, r.top + r.height + 8, 0⟩ else r

/-- The row after a chip of a size. -/
def after (r : ChipRow) (size : Size) : ChipRow :=
  ⟨r.left + size.width + 8, r.top, max r.height size.height⟩

end ChipRow

/-- A chip with its place. -/
structure PlacedChip where
  chip : Chip
  left : Nat
  top : Nat

/-- The primitives of a placed chip in a section that starts at `top`. -/
def PlacedChip.primitives (p : PlacedChip) (top : Nat) : List Primitive :=
  p.chip.primitives p.left (top + p.top)

/-- The places of chips. -/
def placeChips (limit : Nat) : ChipRow → List Chip → List PlacedChip
  | _, [] => []
  | r, c :: rest =>
    let r := r.taking limit c.size.width
    ⟨c, r.left, r.top⟩ :: placeChips limit (r.after c.size) rest

/-- The height of the rows of chips. -/
def chipsHeight (limit : Nat) : ChipRow → List Chip → Nat
  | r, [] => r.top + r.height
  | r, c :: rest => chipsHeight limit ((r.taking limit c.size.width).after c.size) rest

namespace Subject

/-- The texts of chips and their colors. -/
def chipTexts (s : Subject) : List (String × Color) :=
  [(s.term "SquadType" s.student.squadType, chipFill),
    (s.term "TacticRole" s.student.tacticRole, chipFill),
    (s.term "Position" s.student.position, chipFill),
    (s.term "BulletType" s.student.attackType.key, s.student.attackType.color),
    (s.term "ArmorType" s.student.armorType.key, s.student.armorType.color),
    (s.student.weaponType, chipFill)].filter (·.1 ≠ "")

/-- The chips of a student. -/
def chips (s : Subject) : Except Failure (List Chip) :=
  s.chipTexts.mapM fun (text, fill) => do
    let t ← s.setText ((TextRequest.plain text 22 Color.white).withWidth (innerWidth - 24))
    return ⟨t, fill⟩

/-- The left end of the cover icon. -/
def coverLeft : Nat := canvasWidth - margin - iconSide

/-- The right end of the rows of chips. -/
def chipLimit (s : Subject) : Nat :=
  if s.student.cover then coverLeft - 8 else canvasWidth - margin

/-- The cover icon, for students who take cover. -/
def coverIcon (s : Subject) (top : Nat) : List Primitive :=
  if s.student.cover then
    (s.icon? .ui "Cover" ⟨iconSide, iconSide⟩).toList.map (Primitive.ofPicture · coverLeft top)
  else []

/-- The row of the cover icon and the chips. -/
def tagsRow (s : Subject) (placed : List PlacedChip) (top : Nat) : List Primitive :=
  s.coverIcon top ++ placed.flatMap (·.primitives top)

/-- The height of the section of chips. -/
def tagsHeight (s : Subject) (chips : List Chip) : Nat :=
  let height := chipsHeight s.chipLimit .first chips
  if s.student.cover then max height iconSide else height

/-- Places the chips and the cover icon. -/
def placeTags (s : Subject) (f : Flow) : Except Failure Flow := do
  let top := f.cursor
  let chips ← s.chips
  let f ← f.put (s.tagsRow (placeChips s.chipLimit .first chips) top)
  return f.advance (s.tagsHeight chips + sectionGap)

end Subject
end Card
end DialogueSheet
