/-
# What may become an asset

Names of assets come from data files and end up in paths; pictures and remote
files come from outside.  Names that could leave their directory are refused,
and so are contents beyond a limit.
-/
import DialogueSheet.Failure

namespace DialogueSheet

/-- Why a name is refused. -/
inductive NameFault where
  | blank
  | traversal
deriving DecidableEq, Repr

/-- The wording of a refused name. -/
def NameFault.message : NameFault → String
  | .blank => "Asset name is empty"
  | .traversal => "Path traversal not allowed"

/-- The fault of an asset name: it is blank, or has two dots in a row, a slash,
a backslash or a null character. -/
def nameFault? (name : String) : Option NameFault :=
  let chars := name.toList
  if Text.allBlank name then some .blank
  else if Text.occursIn ['.', '.'] chars || chars.contains '/' || chars.contains '\\'
      || chars.contains '\x00' then some .traversal
  else none

/-- The greatest size of a picture that stands in a script: 16 MiB. -/
def maxPictureBytes : Nat := 16777216

/-- The greatest size of a remote file: 64 MiB. -/
def maxDownloadBytes : Nat := 67108864

/-- The fault of so many bytes under a limit. -/
def sizeFault? (limit bytes : Nat) : Option TooLarge :=
  if limit < bytes then some ⟨bytes, limit⟩ else none

end DialogueSheet
