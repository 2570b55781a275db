/-
# Laying out chats

A chat is a title bar, the blocks below each other, and a watermark.  Every part
measures its texts, places its rows at the cursor and moves the cursor past them.
A block takes a least height, and a gap follows it.

| block | rows |
| --- | --- |
| speaker | avatar and name, then bubbles and pictures on the left |
| counterpart | bubbles and pictures on the right |
| choices | one card with a framed box for every option that is not blank |
| banner | one card with a heading and a button |

A tail hangs on the first segment of the first line, if that is a text.
-/
import DialogueSheet.Chat.Config
import DialogueSheet.Chat.Style
import DialogueSheet.Layout.Watermark
import DialogueSheet.Raster.Fit
import DialogueSheet.Script.Block
import DialogueSheet.Script.Segment

namespace DialogueSheet
namespace Chat

/-- The side on which bubbles stand. -/
inductive Side where
  | left
  | right
deriving DecidableEq, Repr

/-- The color of bubbles. -/
def Side.fill : Side → Color
  | .left => darkText
  | .right => counterpartFill

/-- The tail of a bubble at `top`. -/
def tail (side : Side) (top : Nat) : Primitive :=
  match side with
  | .left => .ofShape (.polygon 12 10 [(0, 5), (12, 0), (12, 10)] darkText) 84 (top + 12)
  | .right =>
    .ofShape (.polygon 12 10 [(0, 0), (0, 10), (12, 5)] counterpartFill) (canvasWidth - 20)
      (top + 14)

/-- What a chat is drawn from. -/
structure Scene where
  resources : Resources
  config : ChatConfig
  /-- The students among whom speakers are looked for first. -/
  given : List Student
  /-- The pictures that marks in lines count, fitted and framed. -/
  images : List Picture

namespace Scene

/-- Measures a text. -/
def setText (s : Scene) (request : TextRequest) : Except Failure SetText :=
  s.resources.setText request

/-- The icon of the title bar. -/
def titleIcon (s : Scene) : Picture :=
  match s.config.titleIcon with
  | .image p => { p with size := p.size.fitSquare titleIconSide }
  | _ => ⟨.vector, ⟨titleIconSide, titleIconSide⟩⟩

/-- The row of the title bar: its ground, the icon, the title and a mark to close. -/
def titleBarRow (s : Scene) (title close : SetText) (top : Nat) : List Primitive := [
  .ofShape (.rounded (canvasWidth - 12) 64 18 s.config.titleBackground) 6 top,
  .ofPicture s.titleIcon 24 (top + 12),
  .ofText title 72 (top + 16),
  .ofText close (canvasWidth - 52) (top + 16)]

/-- Places the title bar. -/
def placeTitleBar (s : Scene) (f : Flow) : Except Failure Flow := do
  let top := f.cursor
  let title ← s.setText
    ((TextRequest.plain s.config.title 36 Color.white).withWidth (canvasWidth - 132)).inHeading
  let close ← s.setText (.plain "X" 40 Color.white)
  let f ← f.put (s.titleBarRow title close top)
  return f.advance titleHeight

/-- The avatar of a speaker: the file that the record names, or the icon of its path name. -/
def avatar? (s : Scene) (who : StudentRef) : Option Picture := do
  let student ← s.resources.catalog.resolveAmong who s.given
  let icon ← match student.icon with
    | some path => s.resources.pictureAt? path
    | none =>
      if student.pathName = "" then none else s.resources.picture? .icon student.pathName
  return { icon with size := ⟨avatarSide, avatarSide⟩ }

end Scene

/-- The left ends of a bubble and of its text. -/
def bubbleLefts (side : Side) (width : Nat) : Int × Int :=
  match side with
  | .left => (cardLeft, cardLeft + 16)
  | .right => (canvasWidth - width - 52, canvasWidth - width - 36)

/-- The row of a text in its bubble, which may have a tail. -/
def bubbleRow (side : Side) (hasTail : Bool) (t : SetText) (top : Nat) : List Primitive :=
  (if hasTail then [tail side top] else []) ++ [
    .ofShape (.rounded (t.size.width + 32) (t.size.height + 32) 12 side.fill)
      (bubbleLefts side t.size.width).1 top,
    .ofText t (bubbleLefts side t.size.width).2 (top + 16)]

/-- The left end of a picture. -/
def pictureLeft (side : Side) (p : Picture) : Int :=
  match side with
  | .left => cardLeft
  | .right => canvasWidth - p.size.width - 20

namespace Scene

/-- Places a segment: a text in its bubble, or a picture if it is there. -/
def placeSegment (s : Scene) (side : Side) (f : Flow) (segment : Segment) (isFirst : Bool) :
    Except Failure Flow :=
  let top := f.cursor
  match segment with
  | .text text => do
    let t ← s.setText ((TextRequest.plain text bodySize bubbleText).withWidth bubbleWidth)
    let f ← f.put (bubbleRow side isFirst t top)
    return f.advance (t.size.height + 40)
  | .image index =>
    match s.images[index - 1]? with
    | none => .ok f
    | some p => do
      let f ← f.put [.ofPicture p (pictureLeft side p) top]
      return f.advance (p.size.height + 8)

end Scene

/-- The lines that are not blank, without the blanks around them. -/
def shownLines (lines : List String) : List String := (lines.map Text.trim).filter (· ≠ "")

/-- The segments of lines in their order, with the first of the first line marked. -/
def markedSegments (lines : List String) (imageCount : Nat) : List (Segment × Bool) :=
  (shownLines lines).zipIdx.flatMap fun (line, n) =>
    (segments line imageCount).zipIdx.map fun (segment, i) => (segment, n = 0 && i = 0)

namespace Scene

/-- Places what lines say, one bubble or picture below the other. -/
def placeBubbles (s : Scene) (side : Side) (lines : List String) (f : Flow) :
    Except Failure Flow :=
  (markedSegments lines s.images.length).foldlM (fun f (segment, isFirst) =>
    s.placeSegment side f segment isFirst) f

/-- The row of a speaker: the avatar, if there is one, and the name. -/
def speakerRow (s : Scene) (who : StudentRef) (name : SetText) (top : Nat) : List Primitive :=
  (s.avatar? who).toList.map (Primitive.ofPicture · 12 top) ++ [.ofText name cardLeft top]

/-- Places a speaker with what is said. -/
def placeSpeaker (s : Scene) (who : StudentRef) (lines : List String) (f : Flow) :
    Except Failure Flow := do
  let start := f.cursor
  let name ← s.setText ((TextRequest.plain who.name 24 darkText).withWidth bubbleWidth)
  let f ← f.put (s.speakerRow who name start)
  let f ← s.placeBubbles .left lines (f.advance (name.size.height + 4))
  return (f.advance 8).padRow start minRowHeight

/-- Places what the reader says. -/
def placeCounterpart (s : Scene) (lines : List String) (f : Flow) : Except Failure Flow := do
  let start := f.cursor
  let f ← s.placeBubbles .right lines f
  return (f.advance 8).padRow start minRowHeight

end Scene

/-- A framed card at `top` with a bar beside its heading and a rule below it. -/
def cardFrame (fill accent : Color) (height titleHeight top : Nat) : List Primitive := [
  .ofShape ((Shape.rounded cardWidth height 12 fill).withStroke border 2) cardLeft top,
  .ofShape (.rect 4 30 accent) (cardLeft + 16) (top + 12),
  .ofShape (.rect (cardWidth - 40) 2 border) (cardLeft + 18) (top + 12 + titleHeight + 8)]

/-- A framed box at `top` in a card with a text in its middle. -/
def cardBox (fill : Color) (t : SetText) (top : Nat) : List Primitive := [
  .ofShape ((Shape.rounded (cardWidth - 32) (t.size.height + 24) 12 fill).withStroke border 2)
    (cardLeft + 18) top,
  .ofText t (cardLeft + centeredOffset cardWidth t.size.width) (top + 12)]

/-- The boxes of options below each other. -/
def optionBoxes : (top : Nat) → List SetText → List Primitive
  | _, [] => []
  | top, t :: rest => cardBox optionFill t top ++ optionBoxes (top + t.size.height + 36) rest

/-- The height of the boxes of options with the space below them. -/
def optionsHeight : List SetText → Nat
  | [] => 0
  | t :: rest => t.size.height + 36 + optionsHeight rest

namespace Scene

/-- Measures the heading of a card. -/
def cardTitle (s : Scene) (title : String) : Except Failure SetText :=
  s.setText ((TextRequest.plain title bodySize darkText).withWidth (cardWidth - 20))

/-- Measures a text in a box of a card. -/
def cardText (s : Scene) (text : String) (color : Color) : Except Failure SetText :=
  s.setText ((TextRequest.plain text bodySize color).withWidth (cardWidth - 40)).centered

end Scene

/-- The row of choices in a card of a height. -/
def choicesRow (title : SetText) (options : List SetText) (height top : Nat) : List Primitive :=
  let th := title.size.height
  cardFrame choiceFill choiceAccent (height + 12) th top
    ++ .ofText title (cardLeft + 28) (top + 10) :: optionBoxes (top + 12 + th + 20) options

/-- The row of a banner in a card of a height. -/
def bannerRow (title text : SetText) (height top : Nat) : List Primitive :=
  let th := title.size.height
  cardFrame bannerFill bannerAccent height th top
    ++ .ofText title (cardLeft + 28) (top + 10) :: cardBox bannerAccent text (top + 16 + th + 18)

namespace Scene

/-- Places choices. -/
def placeChoices (s : Scene) (options : List String) (f : Flow) : Except Failure Flow := do
  let top := f.cursor
  let title ← s.cardTitle s.config.optionTitle
  let texts ← (shownLines options).mapM fun o => s.cardText o darkText
  let height := title.size.height + 26 + optionsHeight texts
  let f ← f.put (choicesRow title texts height top)
  return (f.advance (height + 24)).padRow top minRowHeight

/-- Places a banner. -/
def placeBanner (s : Scene) (who : StudentRef) (caption : String) (f : Flow) :
    Except Failure Flow := do
  let top := f.cursor
  let caption := Text.trim caption
  let caption := if caption = "" then Block.defaultCaption who.name else caption
  let title ← s.cardTitle s.config.storyTitle
  let text ← s.cardText caption bannerText
  let height := title.size.height + 26 + text.size.height + 44
  let f ← f.put (bannerRow title text height top)
  return (f.advance (height + 12)).padRow top minRowHeight

/-- Places a block. -/
def placeBlock (s : Scene) : Block → Flow → Except Failure Flow
  | .speaker who lines => s.placeSpeaker who lines
  | .counterpart lines => s.placeCounterpart lines
  | .choices options => s.placeChoices options
  | .banner who caption => s.placeBanner who caption

/-- Places a block with the gap below it. -/
def addBlock (s : Scene) (f : Flow) (b : Block) : Except Failure Flow := do
  let f ← s.placeBlock b f
  return f.advance blockGap

/-- Places blocks below each other. -/
def addBlocks (s : Scene) : Flow → List Block → Except Failure Flow
  | f, [] => .ok f
  | f, b :: rest => do
    let f ← s.addBlock f b
    addBlocks s f rest

/-- The flow with the title bar. -/
def header (s : Scene) : Except Failure Flow :=
  s.placeTitleBar (Flow.start canvasWidth topMargin)

/-- The flow of a whole chat, before it is finished. -/
def flow (s : Scene) (blocks : List Block) (watermark : Option String) : Except Failure Flow := do
  let f ← s.header
  let f ← s.addBlocks f blocks
  s.resources.placeWatermark canvasWidth watermark f

/-- Draws a chat. -/
def render (s : Scene) (blocks : List Block) (watermark : Option String) :
    Except Failure Drawing := do
  let f ← s.flow blocks watermark
  f.finish background 0

end Scene

/-- A picture handed over with a script, fitted and framed; too large a file and one
that is no picture are refused. -/
def inlinePicture (K : Codec) (content : FileContent) (index : Nat) : Except Failure Picture :=
  match sizeFault? maxPictureBytes content.byteCount with
  | some file => .error (.picture (.tooLarge file))
  | none =>
    match K.size? content with
    | some size => .ok ⟨.inline index, size.fitSquare imageSide⟩
    | none => .error (.picture .undecodable)

/-- The frame that is painted on such a picture. -/
def pictureFrame (p : Picture) : Shape :=
  (Shape.rounded p.size.width p.size.height 12 border).withoutFill.withStroke border 2

/-- The pictures handed over with a script. -/
def inlinePictures (K : Codec) (contents : List FileContent) : Except Failure (List Picture) :=
  (contents.zipIdx 1).mapM fun (content, index) => inlinePicture K content index

/-- Draws a chat with the pictures handed over with its script. -/
def render (K : Codec) (resources : Resources) (config : ChatConfig) (given : List Student)
    (contents : List FileContent) (blocks : List Block) (watermark : Option String) :
    Except Failure Drawing := do
  let images ← inlinePictures K contents
  Scene.render ⟨resources, config, given, images⟩ blocks watermark

end Chat
end DialogueSheet
