/-
# Blocks of dialogue

A script is a sequence of blocks: someone speaks, the reader answers, choices
are offered, or a banner announces a story.
-/
import DialogueSheet.Catalog.Catalog

namespace DialogueSheet

/-- A block of dialogue. -/
inductive Block where
  | speaker (who : StudentRef) (lines : List String)
  | counterpart (lines : List String)
  | choices (options : List String)
  | banner (who : StudentRef) (caption : String)
deriving DecidableEq

namespace Block

/-- The texts of a block, one to a line. -/
def content : Block → String
  | speaker _ lines => String.intercalate "\n" lines
  | counterpart lines => String.intercalate "\n" lines
  | choices options => String.intercalate "\n" options
  | banner _ caption => caption

/-- The block with one more line. -/
def addLine (line : String) : Block → Block
  | speaker who lines => speaker who (lines ++ [line])
  | counterpart lines => counterpart (lines ++ [line])
  | choices options => choices (options ++ [line])
  | banner who caption => banner who (caption ++ "\n" ++ line)

/-- The caption of a banner that has no text. -/
def defaultCaption (name : String) : String := "Enter " ++ name ++ "'s relationship story"

end Block
end DialogueSheet
