/-
# Attack and armor types

Both types come with a badge of their own color.  A type that is not known
counts as normal.
-/
import DialogueSheet.Color
import DialogueSheet.Json.Value

namespace DialogueSheet

/-- The damage type of attacks. -/
inductive AttackType where
  | explosion
  | pierce
  | mystic
  | sonic
  | normal
deriving DecidableEq, Repr

/-- The type of armor. -/
inductive ArmorType where
  | light
  | heavy
  | unarmed
  | elastic
  | normal
deriving DecidableEq, Repr

/-- The badge of explosions and of light armor. -/
def badgeRed : Color := Color.ofWord 0xa70c19

/-- The badge of piercing attacks and of heavy armor. -/
def badgeAmber : Color := Color.ofWord 0xb26d1f

/-- The badge of mystic attacks and of no armor. -/
def badgeBlue : Color := Color.ofWord 0x216f9c

/-- The badge of sonic attacks and of elastic armor. -/
def badgePurple : Color := Color.ofWord 0x9431a5

/-- The badge of normal types. -/
def badgeGray : Color := Color.ofWord 0x515a6a

/-- The name of a variant: a string, or an object whose only field holds nothing. -/
def variantName? : Json → Option String
  | .text s => some s
  | .object [(s, .null)] => some s
  | _ => none

namespace AttackType

/-- The name in data files, which is also the key of its label. -/
def key : AttackType → String
  | explosion => "Explosion"
  | pierce => "Pierce"
  | mystic => "Mystic"
  | sonic => "Sonic"
  | normal => "Normal"

/-- The color of the badge. -/
def color : AttackType → Color
  | explosion => badgeRed
  | pierce => badgeAmber
  | mystic => badgeBlue
  | sonic => badgePurple
  | normal => badgeGray

/-- The type of a name. -/
def ofName (name : String) : AttackType :=
  ([explosion, pierce, mystic, sonic].find? (·.key = name)).getD normal

/-- Reads a type. -/
def ofJson? (v : Json) : Option AttackType := (variantName? v).map ofName

end AttackType

namespace ArmorType

/-- The name in data files, which is also the key of its label. -/
def key : ArmorType → String
  | light => "LightArmor"
  | heavy => "HeavyArmor"
  | unarmed => "Unarmed"
  | elastic => "ElasticArmor"
  | normal => "Normal"

/-- The color of the badge. -/
def color : ArmorType → Color
  | light => badgeRed
  | heavy => badgeAmber
  | unarmed => badgeBlue
  | elastic => badgePurple
  | normal => badgeGray

/-- The type of a name. -/
def ofName (name : String) : ArmorType :=
  ([light, heavy, unarmed, elastic].find? (·.key = name)).getD normal

/-- Reads a type. -/
def ofJson? (v : Json) : Option ArmorType := (variantName? v).map ofName

end ArmorType
end DialogueSheet
