/-
# Fonts

The body font lies in `fonts` as `body.ttf` or `body.otf`.  No font that stands
there can be used here, so texts are always set in cells; what is told apart is
a font that is missing and one that is unusable.
-/
import DialogueSheet.Typeset.Cells

namespace DialogueSheet

/-- The endings of font files, in the order in which they are tried. -/
def fontEndings : List String := ["ttf", "otf"]

/-- Whether a font file stands in a directory. -/
def hasFont (files : Files) (directory name : String) : Bool :=
  fontEndings.any fun ending =>
    (files.read? (joinPath directory (name ++ "." ++ ending))).isSome

/-- Why the font of an asset root cannot be used. -/
def fontFailure (files : Files) (root : AssetRoot) : Failure :=
  if hasFont files root.fonts "body" then .unusableFont else .noBodyFont root.fonts

end DialogueSheet
