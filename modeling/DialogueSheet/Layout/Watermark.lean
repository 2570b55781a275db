/-
# Watermarks

The last line of a sheet, centered below everything else.
-/
import DialogueSheet.Layout.Resources

namespace DialogueSheet

/-- A watermark without the blanks around it, unless nothing is left. -/
def watermarkText? (watermark : Option String) : Option String :=
  (watermark.map Text.trim).filter (· ≠ "")

/-- The color of watermarks and of text beside other text. -/
def mutedText : Color := Color.ofWord 0x87929e

/-- Places a watermark on a sheet of a width, if there is one. -/
def Resources.placeWatermark (r : Resources) (width : Nat) (watermark : Option String) (f : Flow) :
    Except Failure Flow :=
  match watermarkText? watermark with
  | none => .ok f
  | some mark => do
    let top := f.cursor
    let t ← r.setText
      ((TextRequest.plain mark 20 mutedText).withWidth (width - 48)).inHeading.centered
    let f ← f.put [.ofText t (centeredOffset width t.size.width) top]
    return f.advance (t.size.height + 12)

end DialogueSheet
