/-
# The files that a command reads

Some paths follow from the command line alone, the others from what the files at
those paths hold.
-/
import DialogueSheet.CommandLine.Run

namespace DialogueSheet
namespace CommandLine

/-- The data files of all languages. -/
def dataPaths (root : AssetRoot) : List String :=
  Language.all.flatMap fun l => Sync.dataFiles.map (root.dataFile l)

/-- The paths that a request reads whatever the files hold. -/
def Request.fixedPaths (root : AssetRoot) : Request → List String
  | .chat script images config students _ _ =>
    script :: images ++ config.toList ++ students.toList ++ dataPaths root
  | _ => dataPaths root

/-- The path of the icon that a file of settings names. -/
def iconSetting? (files : Files) (path : String) : Option String := do
  let json ← files.readText? path >>= Json.parse?
  let value ← json.field? "titleIcon" >>= Json.text?
  return Text.trim value

/-- The path of the avatar of a student. -/
def avatarPath? (root : AssetRoot) (s : Student) : Option String :=
  match s.icon with
  | some path => some path
  | none => (root.assetPath .icon s.pathName).toOption

/-- The students who speak in a script. -/
def speakers (files : Files) (root : AssetRoot) (script : String) (students : Option String) :
    List Student :=
  let given := ((students.toList.mapM (readStudents files)).toOption.getD []).flatten
  let catalog := Catalog.load files root
  match readBlocks catalog given ((files.readText? script).getD "") with
  | .error _ => []
  | .ok blocks => blocks.filterMap fun block =>
    match block with
    | .speaker who _ => catalog.resolveAmong who given
    | _ => none

/-- The pictures on the card of a student. -/
def cardPictures (items : ItemTables) (s : Student) : List Sync.RemotePicture :=
  Sync.pictures [s] [] [] ++ s.equipment.map Sync.equipmentPicture
    ++ (items.favorsByTags s.favorTags).map Sync.itemPicture
    ++ s.furniture.map fun id => Sync.furniturePicture { id := id }

/-- The paths of pictures. -/
def picturePaths (root : AssetRoot) (pictures : List Sync.RemotePicture) : List String :=
  pictures.filterMap fun p => (root.assetPath p.kind p.name).toOption

/-- The paths that follow from the files at the fixed paths. -/
def Request.namedPaths (files : Files) (root : AssetRoot) : Request → List String
  | .chat script _ config students _ _ =>
    config.toList.filterMap (iconSetting? files)
      ++ (speakers files root script students).filterMap (avatarPath? root)
  | .card query language _ _ _ =>
    let catalog := Catalog.load files root
    match studentOf catalog query with
    | .error _ => []
    | .ok student =>
      let shown := (catalog.findById? student.id language).getD student
      picturePaths root (cardPictures (.load files root) shown)
  | .find _ => []
  | .sync options =>
    ((Sync.plannedPictures files root options.force).toOption.getD []).map Download.target

end CommandLine
end DialogueSheet
