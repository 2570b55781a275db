/-
# Students

A student as a data file describes one.  Copies of a student in several
languages share an id; an id of zero belongs to nobody.
-/
import DialogueSheet.Localization.Language
import DialogueSheet.Student.Badge
import DialogueSheet.Student.Skill

namespace DialogueSheet

/-- A number at level 1 and at level 100. -/
structure Growth where
  first : Binary64 := 0
  last : Binary64 := 0
deriving DecidableEq

/-- The unique weapon of a student. -/
structure Weapon where
  name : String := ""
  description : String := ""
  adaptationType : String := ""
  adaptationValue : Int := 0
  attack : Growth := {}
  health : Growth := {}
  healing : Growth := {}
  levelUp : String := ""
deriving DecidableEq

/-- The favorite gear of a student. -/
structure Gear where
  name : String := ""
  description : String := ""
deriving DecidableEq

/-- The numbers that decide fights. -/
structure CombatNumbers where
  health : Growth := {}
  attack : Growth := {}
  defense : Growth := {}
  healing : Growth := {}
  penetrationFirst : Option Binary64 := none
  penetrationLast : Option Binary64 := none
  accuracy : Binary64 := 0
  dodge : Binary64 := 0
  critical : Binary64 := 0
  criticalDamage : Binary64 := 0
  stability : Binary64 := 0
  ammoCount : Binary64 := 0
  ammoCost : Binary64 := 0
  range : Binary64 := 0
  regenCost : Binary64 := 0
deriving DecidableEq

/-- A student. -/
structure Student where
  id : Nat := 0
  name : String := ""
  pathName : String := ""
  devName : String := ""
  familyName : String := ""
  personalName : String := ""
  voice : String := ""
  /-- The file of the avatar, for students that are in no data file. -/
  icon : Option String := none
  school : String := ""
  club : String := ""
  starGrade : Nat := 0
  squadType : String := ""
  tacticRole : String := ""
  position : String := ""
  attackType : AttackType := .normal
  armorType : ArmorType := .normal
  weaponType : String := ""
  weaponImage : String := ""
  cover : Bool := false
  streetAdaptation : Option Nat := none
  outdoorAdaptation : Option Nat := none
  indoorAdaptation : Option Nat := none
  equipment : List String := []
  weapon : Option Weapon := none
  gear : Option Gear := none
  skills : List Skill := []
  giftTags : List String := []
  ownGiftTags : List String := []
  furniture : List Nat := []
  bondStatNames : List String := []
  bondStatValues : List (List Binary64) := []
  numbers : CombatNumbers := {}
  /-- The language of the table that holds this copy. -/
  language : Option Language := none
deriving DecidableEq

namespace Student

/-- The names among those given that are not empty. -/
def nonEmpty (names : List String) : List String := names.filter (· ≠ "")

/-- The names that end a search when one of them is what is searched for. -/
def exactNames (s : Student) : List String := nonEmpty [s.name, s.pathName, s.devName]

/-- The names in which a search looks for parts. -/
def searchNames (s : Student) : List String :=
  nonEmpty [s.name, s.pathName, s.devName, s.familyName, s.personalName, s.voice]

/-- The grade of an adaptation that is not given. -/
def standardGrade : Nat := 2

/-- The grades on the street, outdoors and indoors. -/
def adaptations (s : Student) : List Nat :=
  [s.streetAdaptation, s.outdoorAdaptation, s.indoorAdaptation].map (·.getD standardGrade)

/-- The tags of welcome gifts: the common ones, then the own ones that are new. -/
def favorTags (s : Student) : List String :=
  s.ownGiftTags.foldl (fun tags t => if tags.contains t then tags else tags ++ [t]) s.giftTags

end Student
end DialogueSheet
