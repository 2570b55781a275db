/-
# Stats and the names of buffs

A buff is named by a stat alone or followed by `_Base`, which both add to the
base value, or by `_Coefficient`.
-/
import DialogueSheet.Text.Blank

namespace DialogueSheet

/-- A stat. -/
inductive StatKey where
  | maxHP
  | attackPower
  | defensePower
  | healPower
  | accuracyPoint
  | dodgePoint
  | criticalPoint
  | criticalDamageRate
  | criticalChanceResistPoint
  | criticalDamageResistRate
  | stabilityPoint
  | stabilityRate
  | ammoCount
  | ammoCost
  | range
  | regenCost
  | damageRatio
  | damagedRatio
  | healEffectivenessRate
  | oppressionPower
  | oppressionResist
  | attackSpeed
  | blockRate
  | defensePenetration
  | moveSpeed
  | enhanceExplosionRate
  | enhancePierceRate
  | enhanceMysticRate
  | extendBuffDuration
  | extendDebuffDuration
  | extendCCDuration
deriving DecidableEq, Repr

namespace StatKey

/-- All stats. -/
def all : List StatKey := [
  maxHP, attackPower, defensePower, healPower, accuracyPoint, dodgePoint, criticalPoint,
  criticalDamageRate, criticalChanceResistPoint, criticalDamageResistRate, stabilityPoint,
  stabilityRate, ammoCount, ammoCost, range, regenCost, damageRatio, damagedRatio,
  healEffectivenessRate, oppressionPower, oppressionResist, attackSpeed, blockRate,
  defensePenetration, moveSpeed, enhanceExplosionRate, enhancePierceRate, enhanceMysticRate,
  extendBuffDuration, extendDebuffDuration, extendCCDuration]

/-- The stats that a card shows, in its order. -/
def card : List StatKey := [
  maxHP, attackPower, defensePower, healPower, accuracyPoint, dodgePoint, criticalPoint,
  criticalDamageRate, criticalChanceResistPoint, criticalDamageResistRate, stabilityPoint,
  range, oppressionPower, oppressionResist, healEffectivenessRate, ammoCount]

theorem ne_damagedRatio_of_mem_card {k : StatKey} (h : k ∈ card) : k ≠ damagedRatio := by
  rintro rfl
  exact absurd h (by decide)

/-- The name in data files. -/
def name : StatKey → String
  | maxHP => "MaxHP"
  | attackPower => "AttackPower"
  | defensePower => "DefensePower"
  | healPower => "HealPower"
  | accuracyPoint => "AccuracyPoint"
  | dodgePoint => "DodgePoint"
  | criticalPoint => "CriticalPoint"
  | criticalDamageRate => "CriticalDamageRate"
  | criticalChanceResistPoint => "CriticalChanceResistPoint"
  | criticalDamageResistRate => "CriticalDamageResistRate"
  | stabilityPoint => "StabilityPoint"
  | stabilityRate => "StabilityRate"
  | ammoCount => "AmmoCount"
  | ammoCost => "AmmoCost"
  | range => "Range"
  | regenCost => "RegenCost"
  | damageRatio => "DamageRatio"
  | damagedRatio => "DamagedRatio"
  | healEffectivenessRate => "HealEffectivenessRate"
  | oppressionPower => "OppressionPower"
  | oppressionResist => "OppressionResist"
  | attackSpeed => "AttackSpeed"
  | blockRate => "BlockRate"
  | defensePenetration => "DefensePenetration"
  | moveSpeed => "MoveSpeed"
  | enhanceExplosionRate => "EnhanceExplosionRate"
  | enhancePierceRate => "EnhancePierceRate"
  | enhanceMysticRate => "EnhanceMysticRate"
  | extendBuffDuration => "ExtendBuffDuration"
  | extendDebuffDuration => "ExtendDebuffDuration"
  | extendCCDuration => "ExtendCCDuration"

/-- The stat of a name. -/
def ofName? (name : String) : Option StatKey := all.find? (·.name = name)

/-- Whether a stat is shown as a percentage of 10000. -/
def isRate (k : StatKey) : Bool :=
  "Rate".toList.isSuffixOf k.name.toList || k = attackSpeed || k = damagedRatio

end StatKey

/-- How the amount of a buff counts. -/
inductive BuffKind where
  /-- Added before the coefficient. -/
  | flat
  /-- Added after the coefficient. -/
  | separated
  /-- A change of the coefficient in parts of 10000. -/
  | coefficient
deriving DecidableEq, Repr

/-- The kind of a buff by what follows the stat in its name. -/
def BuffKind.ofEnding? : Option String → Option BuffKind
  | none => some .flat
  | some "Base" => some .flat
  | some "Coefficient" => some .coefficient
  | some _ => none

/-- The part of a text before its first underscore, and the part after it if
there is one. -/
def splitAtUnderscore (name : String) : String × Option String :=
  let chars := name.toList
  let stat := chars.takeWhile (· ≠ '_')
  match chars.drop stat.length with
  | [] => (name, none)
  | _ :: rest => (String.ofList stat, some (String.ofList rest))

/-- The stat and the kind of a named buff. -/
def parseBuff? (name : String) : Option (StatKey × BuffKind) :=
  let (stat, ending) := splitAtUnderscore name
  match StatKey.ofName? stat, BuffKind.ofEnding? ending with
  | some key, some kind => some (key, kind)
  | _, _ => none

example : parseBuff? "MaxHP_Base" = some (.maxHP, .flat) := by decide +kernel
example : parseBuff? "MaxHP_Base_" = none := by decide +kernel

end DialogueSheet
