/-
# Laying out cards

A card has its sections below each other: the portrait, the name, the chips, the weapon
and the equipment, the gifts and the furniture, the terrains, the stats, the skills and
a watermark.  Every section starts at the cursor that the one before leaves.
-/
import DialogueSheet.Card.Abilities
import DialogueSheet.Card.Gear
import DialogueSheet.Card.Header

namespace DialogueSheet
namespace Card
namespace Subject

/-- Places the sections of a card. -/
def place (s : Subject) (watermark : Option String) (f : Flow) : Except Failure Flow := do
  let f ← s.placePortrait f
  let f ← s.placeIdentity f
  let f ← s.placeTags f
  let f ← s.placeArms f
  let f ← s.placeGifts f
  let f ← s.placeTerrain f
  let f ← s.placeStats f
  let f ← s.placeSkills f
  s.resources.placeWatermark canvasWidth watermark f

end Subject

/-- Draws the card of a student, by the copy in the language if there is one. -/
def render (resources : Resources) (progress : Progress) (student : Student) (language : Language)
    (watermark : Option String) : Except Failure Drawing := do
  let shown := (resources.catalog.findById? student.id language).getD student
  let f ← Subject.place ⟨resources, progress, shown, language⟩ watermark
    (Flow.start canvasWidth margin)
  f.finish background minHeight

end Card
end DialogueSheet
