/-
# Failures

Why a rendering, a reading or a download stops.  `message` words each cause; a
file that cannot be read or written, a text that is no JSON and a picture that
does not decode are told by their kind alone.
-/
import DialogueSheet.Files
import DialogueSheet.Text.Quoted

namespace DialogueSheet

/-- A file larger than its limit. -/
structure TooLarge where
  bytes : Nat
  limit : Nat
deriving DecidableEq, Repr

/-- The wording of a file that is too large. -/
def TooLarge.message (t : TooLarge) : String :=
  "File of " ++ toString t.bytes ++ " bytes exceeds the " ++ toString t.limit ++ " byte limit"

/-- Why a picture is refused. -/
inductive PictureFault where
  | undecodable
  | emptySide (size : Size)
  | tooLarge (file : TooLarge)
deriving DecidableEq

/-- Why a placement is refused. -/
inductive LayoutFault where
  /-- A primitive starts above the cursor. -/
  | aboveCursor (top cursor : Nat)
  /-- A primitive starts lower than a canvas can reach. -/
  | outOfRange (top : Nat)
deriving DecidableEq

/-- Why a remote file could not be had. -/
inductive NetworkFault where
  | insecure (url : String)
  | tooLarge (file : TooLarge)
  | other (reason : String)
deriving DecidableEq

/-- Why an operation stops. -/
inductive Failure where
  /-- The messages about the lines of a script. -/
  | script (messages : List String)
  /-- No body font stands in this directory. -/
  | noBodyFont (directory : String)
  | unusableFont
  | vector
  | allocation (size : Size)
  | picture (fault : PictureFault)
  | layout (fault : LayoutFault)
  | notAnObject
  | network (fault : NetworkFault)
  | file
  | data
  /-- The result of an integer operation is no 64-bit word. -/
  | overflow
deriving DecidableEq

namespace PictureFault

/-- The wording of a refused picture. -/
def message : PictureFault → String
  | .undecodable => "unknown format"
  | .emptySide size =>
    "image has invalid size " ++ toString size.width ++ "x" ++ toString size.height
  | .tooLarge file => file.message

end PictureFault

namespace LayoutFault

/-- The wording of a refused placement. -/
def message : LayoutFault → String
  | .aboveCursor top cursor =>
    "primitive at top " ++ toString top ++ " is above cursor " ++ toString cursor
  | .outOfRange top => "offset " ++ toString top ++ " out of range"

end LayoutFault

namespace NetworkFault

/-- The wording of a failed transfer. -/
def message : NetworkFault → String
  | .insecure url => "refusing plain http for " ++ url
  | .tooLarge file => file.message
  | .other reason => reason

end NetworkFault

namespace Failure

/-- The wording of a failure. -/
def message : Failure → String
  | .script messages =>
    "Parse failed with " ++ toString messages.length ++ " error(s)"
      ++ String.join (messages.map ("\n  " ++ ·))
  | .noBodyFont directory => "Font error: no body font in " ++ directory
  | .unusableFont => "Font error: unusable font"
  | .vector => "SVG error: unusable markup"
  | .allocation size =>
    "Raster error: cannot allocate " ++ toString size.width ++ "x" ++ toString size.height
      ++ " pixmap"
  | .picture fault => "Image error: " ++ fault.message
  | .layout fault => "Layout error: " ++ fault.message
  | .notAnObject => "Invalid configuration: expected a JSON object"
  | .network fault => "Network error: " ++ fault.message
  | .file => "I/O error: unusable file"
  | .data => "JSON error: unusable data"
  | .overflow => "integer overflow"

end Failure
end DialogueSheet
