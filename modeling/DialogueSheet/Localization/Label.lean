/-
# Labels of the program itself

Headings and labels that belong to no data file, in three languages.  Another
language shows the Japanese label, and a key without a label shows itself.
-/
import DialogueSheet.Localization.Language

namespace DialogueSheet

/-- A label in the three languages that have one. -/
structure Label where
  key : String
  cn : String
  jp : String
  en : String

namespace Label

/-- All labels. -/
def all : List Label := [
  ⟨"School", "学园", "学園", "School"⟩,
  ⟨"Club", "社团", "部活", "Club"⟩,
  ⟨"Weapon", "专武", "固有武器", "Unique Weapon"⟩,
  ⟨"Equipment", "装备", "装備", "Equipment"⟩,
  ⟨"FavorItems", "喜爱的礼物", "好きな贈り物", "Favorite Gifts"⟩,
  ⟨"Furniture", "互动家具", "インタラクション家具", "Interactive Furniture"⟩,
  ⟨"Terrain", "地形适应", "地形適性", "Terrain"⟩,
  ⟨"Street", "市街", "市街地", "Urban"⟩,
  ⟨"Outdoor", "屋外", "屋外", "Outdoors"⟩,
  ⟨"Indoor", "屋内", "屋内", "Indoors"⟩,
  ⟨"Stats", "属性", "ステータス", "Stats"⟩,
  ⟨"StatsCondition", "等级 \x7blevel\x7d / \x7bstar\x7d星 / 好感 \x7bbond\x7d",
    "レベル \x7blevel\x7d / ★\x7bstar\x7d / 絆 \x7bbond\x7d",
    "Level \x7blevel\x7d / \x7bstar\x7d Stars / Bond \x7bbond\x7d"⟩,
  ⟨"Skills", "技能", "スキル", "Skills"⟩,
  ⟨"Cost", "费用", "コスト", "Cost"⟩,
  ⟨"ExSkill", "EX技能", "EXスキル", "EX Skill"⟩,
  ⟨"PublicSkill", "普通技能", "ノーマルスキル", "Basic Skill"⟩,
  ⟨"PassiveSkill", "被动技能", "パッシブスキル", "Enhanced Skill"⟩,
  ⟨"ExtraPassiveSkill", "辅助技能", "サブスキル", "Sub Skill"⟩,
  ⟨"WeaponPassiveSkill", "专武技能", "固有武器スキル", "Weapon Skill"⟩,
  ⟨"GearPublicSkill", "爱用品技能", "愛用品スキル", "Gear Skill"⟩,
  ⟨"Autoattack", "普通攻击", "通常攻撃", "Normal Attack"⟩,
  ⟨"None", "无", "なし", "None"⟩]

/-- The label in a language, or in Japanese. -/
def inLanguage (label : Label) : Language → String
  | .cn => label.cn
  | .en => label.en
  | _ => label.jp

/-- The label of a key, or the key. -/
def text (key : String) (language : Language) : String :=
  match all.find? (·.key = key) with
  | some label => label.inLanguage language
  | none => key

end Label

example : Label.text "Skills" .kr = "スキル" := by decide +kernel

end DialogueSheet
