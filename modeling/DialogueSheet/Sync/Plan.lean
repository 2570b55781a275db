/-
# What is downloaded

Data files come from one directory per language, pictures from one directory per
kind.  The pictures follow from the records: those of students, items and
furniture, and the fixed ones of equipment, stats and the interface.  A name that
cannot become an asset is left out, and of several remote files for one path only
the first is planned.
-/
import DialogueSheet.Items.Record
import DialogueSheet.Localization.Tables
import DialogueSheet.Student.StatKey

namespace DialogueSheet

/-- A remote file and the path where it is kept. -/
structure Download where
  url : String
  target : String
  /-- Whether the file is kept as a picture. -/
  isPicture : Bool
  /-- Whether a file at the path is replaced. -/
  force : Bool
deriving DecidableEq, Repr

namespace Sync

/-- Where the remote files lie. -/
def repository : String := "https://github.com/lonqie/SchaleDB"

/-- The URL of a remote file. -/
def urlOf (path : String) : String := repository ++ "/raw/main/" ++ path

/-- The names of the data files of a language. -/
def dataFiles : List String := ["students", "localization", "equipment", "items", "furniture"]

/-- The languages whose data files are needed, those of `languages` among them. -/
def neededLanguages (languages : List Language) : List Language :=
  (.cn :: .jp :: languages).eraseDups

/-- The download of a data file. -/
def dataDownload (root : AssetRoot) (language : Language) (file : String) : Download where
  url := urlOf ("data/" ++ language.code ++ "/" ++ file ++ ".json")
  target := root.dataFile language file
  isPicture := false
  force := true

/-- The downloads of the data files. -/
def dataPlan (root : AssetRoot) (languages : List Language) : List Download :=
  (neededLanguages languages).flatMap fun l => dataFiles.map (dataDownload root l)

/-- A remote picture and the asset that it becomes. -/
structure RemotePicture where
  path : String
  kind : AssetKind
  name : String
deriving DecidableEq

/-- The pictures of a student. -/
def studentPictures (s : Student) : List RemotePicture :=
  let id := toString s.id
  [⟨"images/student/icon/" ++ id ++ ".webp", .icon, s.pathName⟩,
    ⟨"images/student/portrait/" ++ id ++ ".webp", .portrait, s.devName⟩]
  ++ (if s.school = "" then [] else
    [⟨"images/schoolicon/School_Icon_" ++ Text.upperText s.school ++ "_W.png", .school, s.school⟩])
  ++ (if s.weaponImage = "" then [] else
    [⟨"images/weapon/" ++ s.weaponImage ++ ".webp", .weapon, s.weaponImage⟩])
  ++ (if s.gear.any (·.name ≠ "") then
    [⟨"images/gear/icon/" ++ id ++ ".webp", .gear, id⟩] else [])
  ++ (s.skills.filter (·.icon ≠ "")).map fun skill =>
    ⟨"images/skill/" ++ skill.icon ++ ".webp", .skill, skill.icon⟩

/-- The categories of equipment that have an icon. -/
def equipmentCategories : List String :=
  ["Badge", "Bag", "Charm", "Gloves", "Hairpin", "Hat", "Necklace", "Shoes", "Watch"]

/-- The icon of a category of equipment. -/
def equipmentPicture (category : String) : RemotePicture :=
  let lower := String.ofList (category.toList.map Text.lowerAscii)
  ⟨"images/equipment/icon/equipment_icon_" ++ lower ++ "_tier8.webp", .equipment, category⟩

/-- The icon of a stat. -/
def statPicture (key : StatKey) : RemotePicture :=
  ⟨"images/staticon/Stat_" ++ key.name ++ ".png", .stat, key.name⟩

/-- The icon of an item. -/
def itemPicture (i : Item) : RemotePicture :=
  ⟨"images/item/icon/" ++ i.icon ++ ".webp", .item, toString i.id⟩

/-- The icon of a piece of furniture. -/
def furniturePicture (f : Furniture) : RemotePicture :=
  ⟨"images/furniture/icon/" ++ f.icon ++ ".webp", .furniture, toString f.id⟩

/-- The icons of the interface and their remote names. -/
def interfaceIcons : List (String × String) := [
  ("Adapt_0", "Ingame_Emo_AdaptresultD"),
  ("Adapt_1", "Ingame_Emo_AdaptresultC"),
  ("Adapt_2", "Ingame_Emo_AdaptresultB"),
  ("Adapt_3", "Ingame_Emo_AdaptresultA"),
  ("Adapt_4", "Ingame_Emo_AdaptresultS"),
  ("Adapt_5", "Ingame_Emo_AdaptresultSS"),
  ("Street", "Terrain_Street"),
  ("Outdoor", "Terrain_Outdoor"),
  ("Indoor", "Terrain_Indoor"),
  ("Cover", "Combat_Icon_Cover_Ally")]

/-- The pictures of the interface. -/
def interfacePictures : List RemotePicture :=
  interfaceIcons.map (fun (name, icon) => ⟨"images/ui/" ++ icon ++ ".png", .ui, name⟩)
    ++ [⟨"images/item/icon/currency_icon_gold.webp", .other, "Credits"⟩]

/-- All remote pictures, in the order in which they are planned. -/
def pictures (students : List Student) (items : List Item) (furniture : List Furniture) :
    List RemotePicture :=
  students.flatMap studentPictures
  ++ equipmentCategories.map equipmentPicture
  ++ StatKey.card.map statPicture
  ++ (items.filter (·.icon ≠ "")).map itemPicture
  ++ (furniture.filter (·.icon ≠ "")).map furniturePicture
  ++ interfacePictures

/-- The download of a picture, if its name can become an asset. -/
def pictureDownload? (root : AssetRoot) (force : Bool) (p : RemotePicture) : Option Download :=
  match root.assetPath p.kind p.name with
  | .ok target => some ⟨urlOf p.path, target, true, force⟩
  | .error _ => none

/-- The downloads whose paths are neither in `taken` nor those of earlier ones. -/
def freshTargets (taken : List String) : List Download → List Download
  | [] => []
  | d :: rest =>
    if taken.contains d.target then freshTargets taken rest
    else d :: freshTargets (d.target :: taken) rest

/-- The downloads of the pictures. -/
def picturePlan (root : AssetRoot) (students : List Student) (items : List Item)
    (furniture : List Furniture) (force : Bool) : List Download :=
  freshTargets [] ((pictures students items furniture).filterMap (pictureDownload? root force))

end Sync
end DialogueSheet
