/-
# Reading students

A record is an object, or an array of its members in their order which may end
early.  A missing member has its default value; a member of the wrong form makes
the whole record unreadable.
-/
import DialogueSheet.Student.Record

namespace DialogueSheet

/-- The greatest value of an 8-bit member. -/
def maxByte : Nat := 255

namespace Json

/-- A text member, empty where it is missing. -/
def textMember (m : List (String × Json)) (name : String) : Option String :=
  member m name "" text?

/-- A number member, zero where it is missing. -/
def numberMember (m : List (String × Json)) (name : String) : Option Binary64 :=
  member m name 0 number?

/-- A member with a list of texts, empty where it is missing. -/
def textsMember (m : List (String × Json)) (name : String) : Option (List String) :=
  member m name [] (listOf? text?)

/-- Two number members, for the first and the last level. -/
def growthMembers (m : List (String × Json)) (first last : String) : Option Growth := do
  return ⟨← numberMember m first, ← numberMember m last⟩

/-- A member that may hold nothing. -/
def optionalMember {α : Type} (m : List (String × Json)) (name : String)
    (item : Json → Option α) : Option (Option α) :=
  member m name none (optional? item)

/-- The rows of a table, each read by `item`. -/
def rowsOf? {α : Type} (item : Json → Option α) (v : Json) : Option (List α) :=
  v.rows.mapM item

mutual

/-- The ids in a value: the whole numbers of 32 bits, out of arrays of any depth. -/
def flatIds : Json → List Nat
  | .whole i => if 0 ≤ i ∧ i ≤ Binary.maxCount then [i.toNat] else []
  | .list items => flatIdsOf items
  | _ => []

/-- The ids in a list of values. -/
def flatIdsOf : List Json → List Nat
  | [] => []
  | v :: vs => flatIds v ++ flatIdsOf vs

end

end Json

namespace Weapon

/-- The members of a weapon, in their order. -/
def memberNames : List String := [
  "Name", "Desc", "AdaptationType", "AdaptationValue", "AttackPower1", "AttackPower100",
  "MaxHP1", "MaxHP100", "HealPower1", "HealPower100", "StatLevelUpType"]

/-- Reads a weapon. -/
def ofJson? (v : Json) : Option Weapon := do
  let m ← v.members? memberNames
  return {
    name := ← Json.textMember m "Name"
    description := ← Json.textMember m "Desc"
    adaptationType := ← Json.textMember m "AdaptationType"
    adaptationValue := ← Json.member m "AdaptationValue" 0 (Json.within? (-2147483648) 2147483647)
    attack := ← Json.growthMembers m "AttackPower1" "AttackPower100"
    health := ← Json.growthMembers m "MaxHP1" "MaxHP100"
    healing := ← Json.growthMembers m "HealPower1" "HealPower100"
    levelUp := ← Json.textMember m "StatLevelUpType" }

end Weapon

namespace Gear

/-- Reads a gear. -/
def ofJson? (v : Json) : Option Gear := do
  let m ← v.members? ["Name", "Desc"]
  return { name := ← Json.textMember m "Name", description := ← Json.textMember m "Desc" }

end Gear

namespace Student

/-- The members of a student, in their order. -/
def memberNames : List String := [
  "Id", "Name", "PathName", "DevName", "FamilyName", "PersonalName", "CharacterVoice", "Icon",
  "School", "Club", "StarGrade", "SquadType", "TacticRole", "Position", "BulletType",
  "ArmorType", "WeaponType", "WeaponImg", "Cover", "StreetBattleAdaptation",
  "OutdoorBattleAdaptation", "IndoorBattleAdaptation", "Equipment", "Weapon", "Gear", "Skills",
  "FavorItemTags", "FavorItemUniqueTags", "FurnitureInteraction", "FavorStatType",
  "FavorStatValue", "MaxHP1", "MaxHP100", "AttackPower1", "AttackPower100", "DefensePower1",
  "DefensePower100", "HealPower1", "HealPower100", "DefensePenetration1",
  "DefensePenetration100", "AccuracyPoint", "DodgePoint", "CriticalPoint",
  "CriticalDamageRate", "StabilityPoint", "AmmoCount", "AmmoCost", "Range", "RegenCost"]

/-- Reads the numbers among the members of a student. -/
def numbersOf? (m : List (String × Json)) : Option CombatNumbers := do
  return {
    health := ← Json.growthMembers m "MaxHP1" "MaxHP100"
    attack := ← Json.growthMembers m "AttackPower1" "AttackPower100"
    defense := ← Json.growthMembers m "DefensePower1" "DefensePower100"
    healing := ← Json.growthMembers m "HealPower1" "HealPower100"
    penetrationFirst := ← Json.optionalMember m "DefensePenetration1" Json.number?
    penetrationLast := ← Json.optionalMember m "DefensePenetration100" Json.number?
    accuracy := ← Json.numberMember m "AccuracyPoint"
    dodge := ← Json.numberMember m "DodgePoint"
    critical := ← Json.numberMember m "CriticalPoint"
    criticalDamage := ← Json.numberMember m "CriticalDamageRate"
    stability := ← Json.numberMember m "StabilityPoint"
    ammoCount := ← Json.numberMember m "AmmoCount"
    ammoCost := ← Json.numberMember m "AmmoCost"
    range := ← Json.numberMember m "Range"
    regenCost := ← Json.numberMember m "RegenCost" }

/-- Reads a grade that may be missing. -/
def gradeOf? (m : List (String × Json)) (name : String) : Option (Option Nat) :=
  Json.optionalMember m name (Json.count? maxByte)

/-- Reads a student; the language is not part of the record. -/
def ofJson? (v : Json) : Option Student := do
  let m ← v.members? memberNames
  return {
    id := ← Json.member m "Id" 0 (Json.count? Binary.maxCount)
    name := ← Json.textMember m "Name"
    pathName := ← Json.textMember m "PathName"
    devName := ← Json.textMember m "DevName"
    familyName := ← Json.textMember m "FamilyName"
    personalName := ← Json.textMember m "PersonalName"
    voice := ← Json.textMember m "CharacterVoice"
    icon := ← Json.optionalMember m "Icon" Json.text?
    school := ← Json.textMember m "School"
    club := ← Json.textMember m "Club"
    starGrade := ← Json.member m "StarGrade" 0 (Json.count? maxByte)
    squadType := ← Json.textMember m "SquadType"
    tacticRole := ← Json.textMember m "TacticRole"
    position := ← Json.textMember m "Position"
    attackType := ← Json.member m "BulletType" .normal AttackType.ofJson?
    armorType := ← Json.member m "ArmorType" .normal ArmorType.ofJson?
    weaponType := ← Json.textMember m "WeaponType"
    weaponImage := ← Json.textMember m "WeaponImg"
    cover := ← Json.member m "Cover" false Json.bool?
    streetAdaptation := ← gradeOf? m "StreetBattleAdaptation"
    outdoorAdaptation := ← gradeOf? m "OutdoorBattleAdaptation"
    indoorAdaptation := ← gradeOf? m "IndoorBattleAdaptation"
    equipment := ← Json.textsMember m "Equipment"
    weapon := ← Json.optionalMember m "Weapon" Weapon.ofJson?
    gear := ← Json.optionalMember m "Gear" Gear.ofJson?
    skills := ← Json.member m "Skills" [] Skill.listOfJson?
    giftTags := ← Json.textsMember m "FavorItemTags"
    ownGiftTags := ← Json.textsMember m "FavorItemUniqueTags"
    furniture := ← Json.member m "FurnitureInteraction" [] (some ∘ Json.flatIds)
    bondStatNames := ← Json.textsMember m "FavorStatType"
    bondStatValues := ← Json.member m "FavorStatValue" []
      (Json.listOf? (Json.listOf? Json.number?))
    numbers := ← numbersOf? m }

end Student
end DialogueSheet
