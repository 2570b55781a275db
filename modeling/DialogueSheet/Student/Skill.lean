/-
# Skills

A skill occupies one of seven slots.  Data files spell some slots in two ways
and in any case of letters; a skill of an unknown slot does not count.
-/
import DialogueSheet.Json.Writer
import DialogueSheet.Text.Casing

namespace DialogueSheet

/-- The slot of a skill. -/
inductive SkillKind where
  | ex
  | basic
  | passive
  | extraPassive
  | weaponPassive
  | gearBasic
  | attack
deriving DecidableEq, Repr

namespace SkillKind

/-- The slot that a data file names, in lower case. -/
def ofLower? : String → Option SkillKind
  | "ex" => some ex
  | "normal" | "public" => some basic
  | "passive" => some passive
  | "sub" | "extrapassive" => some extraPassive
  | "weaponpassive" => some weaponPassive
  | "gearnormal" | "gearpublic" => some gearBasic
  | "autoattack" => some attack
  | _ => none

/-- The slot that a data file names. -/
def ofName? (name : String) : Option SkillKind :=
  ofLower? (String.ofList (name.toList.map Text.lowerAscii))

/-- The key of the label of a slot. -/
def labelKey : SkillKind → String
  | ex => "ExSkill"
  | basic => "PublicSkill"
  | passive => "PassiveSkill"
  | extraPassive => "ExtraPassiveSkill"
  | weaponPassive => "WeaponPassiveSkill"
  | gearBasic => "GearPublicSkill"
  | attack => "Autoattack"

/-- The greatest level of a skill in a slot. -/
def maxLevel : SkillKind → Nat
  | ex => 5
  | attack => 1
  | _ => 10

end SkillKind

/-- A skill. -/
structure Skill where
  kind : SkillKind
  name : String
  description : String
  /-- The values of each placeholder of the description, level by level. -/
  parameters : List (List String)
  /-- The cost, level by level. -/
  cost : List Nat
  icon : String
deriving DecidableEq

namespace Skill

/-- The text of a parameter value. -/
def parameterText : Json → String
  | .text s => s
  | .null => ""
  | v => v.render

/-- The members of a skill in a data file, in their order. -/
def memberNames : List String := ["SkillType", "Name", "Desc", "Parameters", "Cost", "Icon"]

/-- Reads a skill; the inner result is missing when its slot is unknown. -/
def ofJson? (v : Json) : Option (Option Skill) := do
  let m ← v.members? memberNames
  let slot ← Json.member m "SkillType" "" Json.text?
  let name ← Json.member m "Name" "" Json.text?
  let description ← Json.member m "Desc" "" Json.text?
  let parameters ← Json.member m "Parameters" [] (Json.listOf? (Json.listOf? some))
  let cost ← Json.member m "Cost" [] (Json.listOf? (Json.count? Binary.maxCount))
  let icon ← Json.member m "Icon" "" Json.text?
  return (SkillKind.ofName? slot).map fun kind =>
    ⟨kind, name, description, parameters.map (·.map parameterText), cost, icon⟩

/-- Reads a list of skills, without those of unknown slots. -/
def listOfJson? (v : Json) : Option (List Skill) :=
  (v.listOf? ofJson?).map (·.filterMap id)

end Skill
end DialogueSheet
