/-
# Stats of a student at a level

| step | rule |
| --- | --- |
| level | a number grows linearly from level 1 to level 100 |
| stars | health, attack and healing gain a share for every star, rounded up |
| weapon | from five stars on the unique weapon adds its numbers at level 50 |
| buffs | flat amounts, a coefficient of at least 0.2, separate amounts |

All arithmetic is rounded 64-bit arithmetic, and intermediate values are rounded
to four decimals as well.
-/
import DialogueSheet.Failure
import DialogueSheet.Number.Decimal
import DialogueSheet.Student.Record
import DialogueSheet.Student.StatKey

namespace DialogueSheet

/-- The integer is a signed 64-bit word. -/
def IsWord (n : Int) : Prop := -9223372036854775808 ≤ n ∧ n ≤ 9223372036854775807

instance (n : Int) : Decidable (IsWord n) := inferInstanceAs (Decidable (_ ∧ _))

/-- The difference of two words.  It is not taken around: where it is no word, nothing comes
of the computation. -/
def wordSub (m n : Int) : Except Failure Int :=
  if IsWord (m - n) then .ok (m - n) else .error .overflow

/-- The nearest whole number, the greater of two equally near. -/
def roundUpward (x : Binary64) : Binary64 := (x + 0.5).floor

/-- The nearest multiple of `0.0001`. -/
def roundFourPlaces (x : Binary64) : Binary64 := (x * 10000).round / 10000

/-- The share of the way from level 1 to level 100. -/
def levelScale (level : Nat) : Binary64 :=
  roundFourPlaces (Binary.ofNat (max level 1 - 1) / 99)

/-- A number on the way between its ends. -/
def interpolate (first last scale : Binary64) : Binary64 :=
  roundUpward (roundFourPlaces (first + (last - first) * scale))

/-- The gains of attack for each star, in parts of 10000. -/
def attackGains : List Binary64 := [0, 1000, 1200, 1400, 1700]

/-- The gains of health for each star, in parts of 10000. -/
def healthGains : List Binary64 := [0, 500, 700, 900, 1400]

/-- The gains of healing for each star, in parts of 10000. -/
def healingGains : List Binary64 := [0, 750, 1000, 1200, 1500]

/-- The factor of so many stars. -/
def starFactor (gains : List Binary64) (stars : Nat) : Binary64 :=
  (gains.take stars).foldl (fun m gain => m + gain / 10000) 1

/-- The level that a unique weapon is taken to have. -/
def weaponLevel : Nat := 50

/-- What the weapon adds to a number. -/
def weaponBonus (w : Weapon) (growth : Growth) : Binary64 :=
  let scale : Binary64 := Binary.ofNat (weaponLevel - 1) / 99
  let scale := if w.levelUp = "Standard" then roundFourPlaces scale else scale
  roundUpward (growth.first + (growth.last - growth.first) * scale)

/-- A stat with the buffs on it. -/
structure StatLine where
  base : Binary64
  flat : Binary64
  coefficient : Binary64
  separated : Binary64
deriving DecidableEq

namespace StatLine

/-- A stat without buffs. -/
def plain (base : Binary64) : StatLine := ⟨base, 0, 1, 0⟩

/-- The stat with one more buff. -/
def addBuff (line : StatLine) (kind : BuffKind) (amount : Binary64) : StatLine :=
  match kind with
  | .flat => { line with flat := line.flat + amount }
  | .separated => { line with separated := line.separated + amount }
  | .coefficient => { line with coefficient := line.coefficient + amount / 10000 }

end StatLine

/-- The stats of a student. -/
structure StudentStats where
  line : StatKey → StatLine

namespace StudentStats

/-- The base value of defense penetration. -/
def basePenetration (numbers : CombatNumbers) (scale : Binary64) : Binary64 :=
  match numbers.penetrationFirst, numbers.penetrationLast with
  | some first, some last => interpolate first last scale
  | none, some last => interpolate 0 last scale
  | _, none => 0

/-- The base value of a stat. -/
def baseValue (numbers : CombatNumbers) (level stars : Nat) (key : StatKey) : Binary64 :=
  let scale := levelScale level
  let grown (g : Growth) := interpolate g.first g.last scale
  let boosted (g : Growth) (gains : List Binary64) :=
    (roundFourPlaces (grown g * starFactor gains stars)).ceil
  match key with
  | .maxHP => boosted numbers.health healthGains
  | .attackPower => boosted numbers.attack attackGains
  | .defensePower => grown numbers.defense
  | .healPower => boosted numbers.healing healingGains
  | .accuracyPoint => numbers.accuracy
  | .dodgePoint => numbers.dodge
  | .criticalPoint => numbers.critical
  | .criticalDamageRate => numbers.criticalDamage
  | .criticalChanceResistPoint => 100
  | .criticalDamageResistRate => 5000
  | .stabilityPoint => numbers.stability
  | .stabilityRate => 2000
  | .ammoCount => numbers.ammoCount
  | .ammoCost => numbers.ammoCost
  | .range => numbers.range
  | .regenCost => numbers.regenCost
  | .oppressionPower | .oppressionResist => 100
  | .blockRate => 0
  | .defensePenetration => basePenetration numbers scale
  | .moveSpeed => 200
  | .damageRatio | .damagedRatio | .healEffectivenessRate | .attackSpeed
  | .enhanceExplosionRate | .enhancePierceRate | .enhanceMysticRate
  | .extendBuffDuration | .extendDebuffDuration | .extendCCDuration => 10000

/-- The stats with one more buff on a stat. -/
def addBuff (s : StudentStats) (key : StatKey) (kind : BuffKind) (amount : Binary64) :
    StudentStats where
  line k := if k = key then (s.line k).addBuff kind amount else s.line k

/-- The number of stars from which the unique weapon counts. -/
def weaponStars : Nat := 5

/-- The stats of a student at a level with so many stars. -/
def ofStudent (s : Student) (level stars : Nat) : StudentStats :=
  let bare : StudentStats := ⟨fun key => .plain (baseValue s.numbers level stars key)⟩
  match s.weapon with
  | some w =>
    if weaponStars ≤ stars then
      ((bare.addBuff .attackPower .flat (weaponBonus w w.attack)).addBuff .maxHP .flat
        (weaponBonus w w.health)).addBuff .healPower .flat (weaponBonus w w.healing)
    else bare
  | none => bare

/-- Adds a named buff; tells whether the name is known beside the stats that come of it. -/
def addNamedBuff (s : StudentStats) (name : String) (amount : Binary64) :
    Bool × StudentStats :=
  match parseBuff? name with
  | some (key, kind) => (true, s.addBuff key kind amount)
  | none => (false, s)

/-- The base value as an integer. -/
def base (s : StudentStats) (key : StatKey) : Int := (s.line key).base.toInt64

/-- The least coefficient of a stat. -/
def leastCoefficient : Binary64 := 0.2

/-- The value with all buffs.  The ratio of damage taken may be negative and its
coefficient is not held up. -/
def total (s : StudentStats) (key : StatKey) : Int :=
  let line := s.line key
  let isRatio := key = .damagedRatio
  let coefficient :=
    if isRatio then line.coefficient else line.coefficient.greater leastCoefficient
  let scaled := (line.base + line.flat) * coefficient
  let value := roundUpward (roundFourPlaces scaled) + line.separated
  if isRatio then value.toInt64 else max value.toInt64 0

/-- Puts a comma in front of every digit, but the first of all, that a multiple of
three digits starts with. -/
def groupDigits (isFirst : Bool) : List Char → List Char
  | [] => []
  | c :: rest =>
    if !isFirst && (rest.length + 1) % 3 = 0 then ',' :: c :: groupDigits false rest
    else c :: groupDigits false rest

/-- An integer with commas between groups of three digits. -/
def groupThousands (n : Int) : List Char :=
  let digits := groupDigits true (decimalDigits n.natAbs)
  if n < 0 then '-' :: digits else digits

/-- A total in parts of 10000 as a percentage. -/
def percentage (parts : Int) : String :=
  ((Binary.ofInt parts : Binary64) / 100).wholeText ++ "%"

/-- The total as it is shown: the ratio of damage taken as its distance from
100 %, rates as percentages, others with grouped digits. -/
def totalText (s : StudentStats) (key : StatKey) : Except Failure String :=
  let total := s.total key
  if key = .damagedRatio then percentage <$> wordSub total 10000
  else if key.isRate then .ok (percentage total)
  else .ok (String.ofList (groupThousands total))

theorem exists_totalText (s : StudentStats) {key : StatKey} (h : key ≠ .damagedRatio) :
    ∃ text, s.totalText key = .ok text := by
  simp only [totalText, h, if_false]
  split <;> exact ⟨_, rfl⟩

end StudentStats

/-- The row of bond values that counts at a bond level. -/
def bondRow (level : Nat) : Nat := if level < 20 then level / 5 else 2 + level / 10

/-- The greatest bond level that counts. -/
def maxBondLevel : Nat := 50

/-- The named bonuses of the bond levels below `level`. -/
def bondStats (s : Student) (level : Nat) : List (String × Binary64) :=
  let levels := (List.range (min level maxBondLevel)).drop 1
  let sums := levels.foldl (fun (first, second) n =>
    match s.bondStatValues[bondRow n]? with
    | some (a :: b :: _) => (first + a, second + b)
    | some [a] => (first + a, second)
    | _ => (first, second)) ((0 : Binary64), (0 : Binary64))
  (s.bondStatNames.take 2).zip [sums.1, sums.2]

example : StudentStats.groupThousands (-1234567) = "-1,234,567".toList := by decide +kernel

end DialogueSheet
