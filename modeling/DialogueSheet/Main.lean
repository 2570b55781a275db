/-
# The program

Reads the files that the command line needs, runs the command on them and writes
what it saves.  Of pictures only PNG files are recognized, and remote files are out
of reach, so `sync` finds every download failed.
-/
import DialogueSheet.CommandLine.Needs
import DialogueSheet.Layout.Canvas
import DialogueSheet.Raster.Png

open DialogueSheet CommandLine

/-- The content of a file. -/
def contentOfBytes (bytes : ByteArray) : FileContent :=
  match Png.size? bytes with
  | some size => .picture size .png bytes.size
  | none =>
    match String.fromUTF8? bytes with
    | some text => .text text
    | none => .bytes bytes.toList

/-- The tree with a file and the directories that lead to it. -/
def withFile (files : Files) (path : String) (content : FileContent) : Files :=
  ((files.makeParents? path).bind fun fs => fs.write? path content).getD files

/-- Reads the files that are there. -/
def readFiles (files : Files) (paths : List String) : IO Files :=
  paths.foldlM (fun (fs : Files) (path : String) => do
    try
      let bytes ← IO.FS.readBinFile path
      return withFile fs path (contentOfBytes bytes)
    catch _ => return fs) files

/-- The files of a request. -/
def filesFor (root : AssetRoot) (request : Request) : IO Files := do
  let working := (Files.pathParts (← IO.currentDir).toString).filter (· ≠ "")
  let top : Files := ⟨[], []⟩
  let bare := { (top.makeParents? ("/" ++ Location.path working ++ "/x")).getD top with
    working := working }
  let files ← readFiles bare (request.fixedPaths root)
  readFiles files (request.namedPaths files root)

/-- A remote that cannot be reached. -/
def unreachable : Remote Unit where
  reply url _ := (.error ((Sync.urlFault? url).getD (.other ("no connection for " ++ url))), ())

/-- Prints the message of a failure. -/
def fail (message : String) : IO UInt32 := do
  IO.eprintln ("Error: " ++ message)
  return 1

/-- Carries out the effect of a command. -/
def carryOut : Except String Effect → IO UInt32
  | .error message => fail message
  | .ok (.print text) => do
    IO.print text
    return 0
  | .ok (.save path drawing) => do
    try
      match drawing.paint (.ofShapes (Primitive.shapes drawing.primitives)) with
      | .ok canvas =>
        IO.FS.writeBinFile path (Png.encode canvas)
        return 0
      | .error failure => fail failure.message
    catch _ => fail (writeFault path)

/-- The environment variable that names the asset root. -/
def assetsVariable : String := "MOMOTALK_ASSETS"

/-- Runs a command line. -/
def main (arguments : List String) : IO UInt32 := do
  match Invocation.read arguments with
  | .error stop =>
    let result := Result.ofStop ⟨[], []⟩ stop
    IO.print result.output
    return UInt32.ofNat result.code
  | .ok invocation =>
    let root := assetRoot invocation.assets (← IO.getEnv assetsVariable)
    let files ← filesFor root invocation.request
    carryOut (invocation.request.perform .bySize unreachable () files root).effect
