/-
# How pictures are stored

What a file decodes to, and the PNG file that a decoded picture is stored as, are left to a
codec.  Only the size of a decoded picture is looked at.
-/
import DialogueSheet.Files

namespace DialogueSheet

/-- What decodes and stores pictures. -/
structure Codec where
  /-- A picture that has been decoded. -/
  Image : Type
  /-- The size of a picture. -/
  size : Image → Size
  /-- Decodes the content of a file, if it is a picture. -/
  decode? : FileContent → Option Image
  /-- The PNG file of a picture, if it can be stored as one. -/
  encode? : Image → Option FileContent

namespace Codec

/-- The size of the picture that a content decodes to. -/
def size? (K : Codec) (content : FileContent) : Option Size := (K.decode? content).map K.size

/-- The number of bytes of the least PNG file. -/
def leastPngBytes : Nat := 67

/-- A codec that keeps nothing of a picture but its size. -/
def bySize : Codec where
  Image := Size
  size := id
  decode?
    | .picture size .. | .drawing size _ => some size
    | _ => none
  encode? size := some (.picture size .png leastPngBytes)

end Codec
end DialogueSheet
