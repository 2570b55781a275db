/-
# Files

A tree of directories and files, seen from a working directory.  A path is a
text with `/` between its parts: an empty part and `.` stay in a directory, `..`
goes up, and a path that starts with `/` starts at the top.

A file holds a text, other bytes, a picture, or a drawing of a command.  Of the last
two the bytes are not spelled out: they are told by the size of the picture, the
format and the number of bytes, and no drawing is the same as a picture that was
there before.
-/
import DialogueSheet.Raster.Pixmap
import DialogueSheet.Text.Blank

namespace DialogueSheet

/-- The formats in which a picture can be stored. -/
inductive PictureFormat where
  | png
  | gif
  | jpeg
  | webp
deriving DecidableEq, Repr

/-- What a file holds. -/
inductive FileContent where
  | text (text : String)
  | bytes (bytes : List UInt8)
  /-- So many bytes of value zero. -/
  | zeros (count : Nat)
  | picture (size : Size) (format : PictureFormat) (bytes : Nat)
  /-- What a command has drawn, stored as PNG. -/
  | drawing (size : Size) (bytes : Nat)
deriving DecidableEq

namespace FileContent

/-- The content as text, if it is text in UTF-8. -/
def text? : FileContent → Option String
  | .text s => some s
  | .bytes b => String.fromUTF8? ⟨b.toArray⟩
  | .zeros n => some (String.ofList (List.replicate n '\x00'))
  | .picture .. | .drawing .. => none

/-- The number of bytes. -/
def byteCount : FileContent → Nat
  | .text s => s.utf8ByteSize
  | .bytes b => b.length
  | .zeros n => n
  | .picture _ _ n | .drawing _ n => n

end FileContent

/-- The place of a file or directory: the names from the top down. -/
abbrev Location := List String

/-- What stands at a location. -/
inductive Entry where
  | directory
  | file (content : FileContent)
deriving DecidableEq

/-- A tree of files and the directory in which relative paths start. -/
structure Files where
  entries : List (Location × Entry)
  working : Location

namespace Files

/-- The greatest length of a name, in bytes. -/
def maxNameBytes : Nat := 255

/-- The greatest length of a path, in bytes. -/
def maxPathBytes : Nat := 4095

/-- The parts of a path between its slashes. -/
def pathParts (path : String) : List String := (Text.cutAt '/' path.toList).map String.ofList

/-- The location at which a path starts. -/
def startOf (files : Files) (path : String) : Location :=
  if path.toList.head? = some '/' then [] else files.working

/-- What stands at a location; the top is a directory. -/
def found? (files : Files) (location : Location) : Option Entry :=
  if location.isEmpty then some .directory else files.entries.lookup location

/-- Whether a part of a path can be the name of a file. -/
def isName (part : String) : Bool :=
  part ≠ "" && part ≠ "." && part ≠ ".." && !part.toList.contains '\x00'
    && part.utf8ByteSize ≤ maxNameBytes

/-- The location that one part of a path leads to from a directory. -/
def step? (location : Location) (part : String) : Option Location :=
  if part = "" ∨ part = "." then some location
  else if part = ".." then some location.dropLast
  else if isName part then some (location ++ [part])
  else none

/-- Follows the parts of a path; every part but the last must lead to a directory. -/
def follow? (files : Files) : Location → List String → Option Location
  | location, [] => some location
  | location, part :: rest =>
    if files.found? location = some .directory then
      match step? location part with
      | some next => follow? files next rest
      | none => none
    else none

/-- The location of a path, whether or not something stands there. -/
def locate? (files : Files) (path : String) : Option Location :=
  if path = "" ∨ maxPathBytes < path.utf8ByteSize then none
  else files.follow? (files.startOf path) (pathParts path)

/-- What stands at a path. -/
def at? (files : Files) (path : String) : Option Entry := files.locate? path >>= files.found?

/-- Whether something stands at a path. -/
def exists? (files : Files) (path : String) : Bool := (files.at? path).isSome

/-- The content of the file at a path. -/
def read? (files : Files) (path : String) : Option FileContent :=
  match files.at? path with
  | some (.file content) => some content
  | _ => none

/-- The text of the file at a path. -/
def readText? (files : Files) (path : String) : Option String :=
  files.read? path >>= FileContent.text?

/-- The tree with an entry at a location. -/
def put (files : Files) (location : Location) (entry : Entry) : Files where
  entries :=
    if (files.entries.lookup location).isSome then
      files.entries.map fun (l, e) => if l = location then (l, entry) else (l, e)
    else files.entries ++ [(location, entry)]
  working := files.working

/-- Writes a file; fails where its directory is missing or a directory stands. -/
def write? (files : Files) (path : String) (content : FileContent) : Option Files :=
  match files.locate? path with
  | none => none
  | some location =>
    if files.found? location = some .directory then none
    else some (files.put location (.file content))

/-- Removes the file at a path, if there is one. -/
def remove (files : Files) (path : String) : Files :=
  match files.locate? path with
  | none => files
  | some location =>
    match files.found? location with
    | some (.file _) => { files with entries := files.entries.filter (·.1 ≠ location) }
    | _ => files

/-- Follows the parts of a path and makes the directories that are missing. -/
def makeAlong? (files : Files) : Location → List String → Option Files
  | _, [] => some files
  | location, part :: rest =>
    match step? location part with
    | none => none
    | some next =>
      match files.found? next with
      | some .directory => makeAlong? files next rest
      | some (.file _) => none
      | none => makeAlong? (files.put next .directory) next rest

/-- The parts of a path without those at its end that stay in a directory. -/
def trimParts (parts : List String) : List String :=
  (parts.reverse.dropWhile fun part => part = "" || part = ".").reverse

/-- The parts of the path to the directory of a file. -/
def parentParts (path : String) : List String := trimParts (trimParts (pathParts path)).dropLast

/-- Makes the directories of the file at a path. -/
def makeParents? (files : Files) (path : String) : Option Files :=
  let parts := parentParts path
  if maxPathBytes < (String.intercalate "/" parts).utf8ByteSize then none
  else files.makeAlong? (files.startOf path) parts

/-- Puts a file under a directory together with the directories that lead to it. -/
def place (files : Files) (base : Location) (names : List String) (content : FileContent) :
    Files :=
  let whole := base ++ names
  let withDirectories := (List.range whole.length).foldl (fun (fs : Files) n =>
    if (fs.found? (whole.take n)).isSome then fs else fs.put (whole.take n) .directory) files
  withDirectories.put whole (.file content)

/-- The files under a directory, by their names from there. -/
def filesUnder (files : Files) (base : Location) : List (Location × FileContent) :=
  files.entries.filterMap fun (location, entry) =>
    match entry with
    | .file content =>
      if base.isPrefixOf location then some (location.drop base.length, content) else none
    | .directory => none

end Files

/-- A path continued by another: an absolute one stands alone, and a slash comes
between the two unless the first is empty or ends in one. -/
def joinPath (base part : String) : String :=
  if part.toList.head? = some '/' ∨ base = "" then part
  else if base.toList.getLast? = some '/' then base ++ part
  else base ++ "/" ++ part

/-- A component of a path. -/
inductive PathComponent where
  /-- The slash that a path starts with. -/
  | top
  /-- The dot that a path starts with. -/
  | here
  | up
  | name (name : String)
deriving DecidableEq

/-- The component that a part of a path is; an empty part and a dot are none. -/
def PathComponent.ofPart? (part : String) : Option PathComponent :=
  if part = "" ∨ part = "." then none
  else if part = ".." then some .up
  else some (.name part)

/-- The components of a path.  Two paths are taken for the same when they have the same
components, also where a file is found at one of them only, as with a slash at the end. -/
def pathComponents (path : String) : List PathComponent :=
  let parts := Files.pathParts path
  let start : List PathComponent :=
    if path.toList.head? = some '/' then [.top]
    else if parts.head? = some "." then [.here]
    else []
  start ++ parts.filterMap PathComponent.ofPart?

/-- The location of a location seen from `base`, as a path. -/
def Location.path (location : Location) : String := String.intercalate "/" location

example : joinPath "a/" "icons" = "a/icons" := by decide +kernel
example : joinPath "" "icons" = "icons" := by decide +kernel
example : pathComponents "./a//./b/" = [.here, .name "a", .name "b"] := by decide +kernel

end DialogueSheet
