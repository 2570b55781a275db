/-
# What a student can do

The terrains with their grades, the stats at the progress that the card assumes, and the
skills but the plain attack.
-/
import DialogueSheet.Card.Panel
import DialogueSheet.Markup.RichText
import DialogueSheet.Student.Stats

namespace DialogueSheet
namespace Card
namespace Subject

/-- The terrains in the order of the adaptations. -/
def terrains : List String := ["Street", "Outdoor", "Indoor"]

/-- The width of the part of a terrain. -/
def terrainWidth : Nat := innerWidth / 3

/-- The greatest grade that has an icon. -/
def maxGrade : Nat := 5

/-- A terrain in a row at `top`: its icon, its name and the icon of the grade. -/
def terrainCell (s : Subject) (name : String) (grade index top : Nat) :
    Except Failure (List Primitive) := do
  let x : Nat := margin + padding + index * terrainWidth
  let box : Size := ⟨iconSide, iconSide⟩
  let icon := (s.icon? .ui name box).toList.map (Primitive.ofPicture · x top)
  let t ← s.setText ((TextRequest.plain (s.label name) 22 darkText).withWidth
    (terrainWidth - 120))
  let grade := "Adapt_" ++ toString (min grade maxGrade)
  let gradeIcon := (s.icon? .ui grade box).toList.map
    (Primitive.ofPicture · (x + terrainWidth - 72 : Nat) top)
  return icon ++ .ofText t (x + 56 : Nat) (top + (iconSide - t.size.height) / 2) :: gradeIcon

/-- Adds the row of terrains to a column. -/
def addTerrains (s : Subject) (c : Strip) : Except Failure Strip := do
  let top := c.height
  let cells ← (terrains.zip s.student.adaptations).zipIdx.mapM fun ((name, grade), index) =>
    s.terrainCell name grade index top
  return c.grown cells.flatten (iconSide + 12)

/-- Places the terrains. -/
def placeTerrain (s : Subject) (f : Flow) : Except Failure Flow := do
  let c ← s.column "Terrain" margin
  let c ← s.addTerrains c
  placeWidePanel c f

/-- The stats at the progress that the card assumes, with the bonuses of the bond. -/
def stats (s : Subject) : StudentStats :=
  (bondStats s.student s.progress.bond).foldl (fun stats (name, amount) =>
    (stats.addNamedBuff name amount).2)
    (StudentStats.ofStudent s.student s.progress.level s.progress.stars)

/-- The text about the progress. -/
def condition (s : Subject) : String :=
  let fill (text key : String) (n : Nat) := Text.replace text ("\x7b" ++ key ++ "\x7d") (toString n)
  fill (fill (fill (s.label "StatsCondition") "level" s.progress.level) "star" s.progress.stars)
    "bond" s.progress.bond

/-- Adds the text about the progress to a column. -/
def addCondition (s : Subject) (c : Strip) : Except Failure Strip := do
  let t ← s.setText ((TextRequest.plain s.condition 20 mutedText).withWidth (innerWidth - 24))
  return c.grown [.ofText t (margin + padding : Nat) c.height] (t.size.height + 8)

/-- The width of a stat. -/
def statWidth : Nat := columnWidth - 24

/-- A stat in a row at `top`: its icon, its name on the left and its value on the right, with the
height of the texts. -/
def statCell (s : Subject) (key : StatKey) (index top : Nat) : Except Failure Strip := do
  let x : Nat := margin + padding + index * (columnWidth + 12)
  let icon := (s.icon? .stat key.name ⟨28, 28⟩).toList.map (Primitive.ofPicture · x top)
  let name ← s.setText ((TextRequest.plain (s.term "Stat" key.name) 22 darkText).withWidth
    (statWidth - 140))
  let total ← s.stats.totalText key
  let value ← s.setText (.plain total 22 darkText)
  return ⟨icon ++ [
    .ofText name (x + 36 : Nat) top,
    .ofText value (((x + statWidth : Nat) : Int) - value.size.width) top],
    max name.size.height value.size.height⟩

/-- Adds a row of stats to a column. -/
def addStats (s : Subject) (c : Strip) (keys : List StatKey) : Except Failure Strip := do
  let top := c.height
  let cells ← keys.zipIdx.mapM fun (key, index) => s.statCell key index top
  return c.grown (cells.flatMap Strip.primitives) ((cells.map Strip.height).foldl max 28 + 10)

end Subject

/-- A list cut into pairs; the last one may be alone. -/
def inPairs {α : Type} : List α → List (List α)
  | a :: b :: rest => [a, b] :: inPairs rest
  | [a] => [[a]]
  | [] => []

namespace Subject

/-- Places the stats. -/
def placeStats (s : Subject) (f : Flow) : Except Failure Flow := do
  let c ← s.column "Stats" margin
  let c ← s.addCondition c
  let c ← (inPairs StatKey.card).foldlM s.addStats c
  placeWidePanel c f

/-- The kind of a skill, with the cost at the highest level for an EX skill. -/
def skillKindText (s : Subject) (skill : Skill) : String :=
  let kind := s.label skill.kind.labelKey
  match skill.kind, skill.cost.getLast? with
  | .ex, some cost => kind ++ " · " ++ s.label "Cost" ++ " " ++ toString cost
  | _, _ => kind

/-- The icon of a skill on its badge, in a card at `top`. -/
def skillIcon (s : Subject) (skill : Skill) (top : Nat) : List Primitive :=
  (s.icon? .skill skill.icon ⟨52, 52⟩).toList.map fun p =>
    .ofPicture p (margin + padding + 6 + (52 - p.size.width) / 2 : Nat)
      (top + 18 + (52 - p.size.height) / 2)

/-- The row of a skill in a card of a height: its badge, its name, its kind and its description. -/
def skillRow (s : Subject) (skill : Skill) (title kind description : SetText) (height top : Nat) :
    List Primitive :=
  let textLeft : Nat := margin + padding + 80
  let th := title.size.height
  let kh := kind.size.height
  [frame margin top ⟨innerWidth, height⟩,
    .ofShape (.rounded 64 64 12 s.student.attackType.color) (margin + padding : Nat) (top + 12)]
    ++ s.skillIcon skill top ++ [
    .ofText title textLeft (top + 12),
    .ofText kind textLeft (top + 12 + th + 4),
    .ofText description textLeft (top + 12 + th + 4 + kh + 8)]

/-- Places the card of a skill. -/
def placeSkill (s : Subject) (f : Flow) (skill : Skill) : Except Failure Flow := do
  let top := f.cursor
  let textWidth := innerWidth - 24 - 80
  let title ← s.setText ((TextRequest.plain skill.name 26 darkText).withWidth textWidth).inHeading
  let kind ← s.setText ((TextRequest.plain (s.skillKindText skill) 20 mutedText).withWidth
    textWidth)
  let spans := richSpans skill.description skill.parameters skill.kind.maxLevel darkText
    s.language s.resources.localization
  let description ← s.setText ((TextRequest.rich spans 22).withWidth textWidth)
  let height :=
    max (title.size.height + 4 + kind.size.height + 8 + description.size.height) 64 + 24
  let f ← f.put (s.skillRow skill title kind description height top)
  return f.advance (height + 8)

/-- Places the heading of the skills. -/
def placeSkillsHeading (s : Subject) (f : Flow) : Except Failure Flow := do
  let top := f.cursor
  let t ← s.setText ((TextRequest.plain (s.label "Skills") 28 darkText).withWidth
    innerWidth).inHeading
  let f ← f.put [.ofText t margin top]
  return f.advance (t.size.height + 8)

/-- The skills of which there are cards. -/
def cardSkills (s : Subject) : List Skill := s.student.skills.filter (·.kind ≠ .attack)

/-- Places the skills. -/
def placeSkills (s : Subject) (f : Flow) : Except Failure Flow := do
  let f ← s.placeSkillsHeading f
  s.cardSkills.foldlM s.placeSkill f

end Subject
end Card
end DialogueSheet
