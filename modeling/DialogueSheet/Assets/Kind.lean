/-
# Where assets lie

Every kind of picture has a directory under the asset root; data files lie in a
directory per language, fonts in one of their own.
-/
import DialogueSheet.Assets.Guard

namespace DialogueSheet

/-- The kinds of pictures. -/
inductive AssetKind where
  | icon
  | portrait
  | school
  | weapon
  | gear
  | skill
  | equipment
  | stat
  | item
  | furniture
  | ui
  | other
deriving DecidableEq, Repr

/-- The directory of a kind. -/
def AssetKind.directory : AssetKind → String
  | .icon => "icons"
  | .portrait => "portraits"
  | .school => "schools"
  | .weapon => "weapons"
  | .gear => "gears"
  | .skill => "skills"
  | .equipment => "equipments"
  | .stat => "stats"
  | .item => "items"
  | .furniture => "furnitures"
  | .ui => "ui"
  | .other => "others"

/-- The directory that holds all assets, as a path. -/
structure AssetRoot where
  path : String
deriving DecidableEq

namespace AssetRoot

/-- The asset root when none is named. -/
def standard : AssetRoot := ⟨"assets"⟩

/-- The directory of the fonts. -/
def fonts (root : AssetRoot) : String := joinPath root.path "fonts"

/-- The directory of a kind. -/
def directory (root : AssetRoot) (kind : AssetKind) : String := joinPath root.path kind.directory

/-- The path of a picture, or the fault of its name. -/
def assetPath (root : AssetRoot) (kind : AssetKind) (name : String) : Except NameFault String :=
  match nameFault? name with
  | some fault => .error fault
  | none => .ok (joinPath (root.directory kind) (name ++ ".png"))

end AssetRoot
end DialogueSheet
