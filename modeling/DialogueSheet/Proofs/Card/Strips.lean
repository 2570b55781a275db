/-
# The strips of cards

The sections of a card as strips, which know nothing of where they are placed.  A column is a stack
of strips too: each part of it is added at the height that the column has by then
(`column_bind_eq`).  Every section places its row at tops that it counts from the cursor, so
wherever it starts it leaves what its strips do (`place_follows`).
-/
import DialogueSheet.Card.Layout
import DialogueSheet.Proofs.Layout.Following

namespace DialogueSheet
namespace Card

/-! ### Columns -/

namespace Subject

/-- The strip of the heading of a column. -/
def heading (s : Subject) (key : String) (left : Nat) : Except Failure Strip := do
  let t ← s.setText ((TextRequest.plain (s.label key) 24 darkText).withWidth
    (columnWidth - 24)).inHeading
  return ⟨[.ofText t (left + padding : Nat) 0], t.size.height + 8⟩

/-- A column at an offset: its heading and what follows. -/
def stacked (s : Subject) (key : String) (left : Nat) (body : Except Failure (List Strip)) :
    Except Failure Strip := do
  let heading ← s.heading key left
  let strips ← body
  return Strip.stack (.gap padding :: heading :: strips)

theorem column_eq (s : Subject) (key : String) (left : Nat) :
    s.column key left = (Strip.gap padding).above <$> s.heading key left := by
  simp only [column, heading, map_bind, map_pure]
  refine bind_congr fun t => ?_
  have hrow : Shifts fun top => [.ofText t (left + padding : Nat) top] := fun top => by simp
  rw [Strip.grown_row hrow]

/-- A column with further parts is the stack of their strips below the heading. -/
theorem column_bind_eq (s : Subject) (key : String) (left : Nat)
    {add : Strip → Except Failure Strip} {body : Except Failure (List Strip)}
    (h : Follows Strip.above add body) :
    s.column key left >>= add = s.stacked key left body := by
  rw [column_eq, stacked, bind_map_left]
  refine bind_congr fun heading => ?_
  rw [h]
  cases body with
  | error e => rfl
  | ok strips =>
    change Except.ok (List.foldl Strip.above _ strips) = Except.ok _
    rw [Strip.foldl_above, Strip.above_assoc]
    rfl

end Subject

/-! ### Panels -/

/-- A column in a panel of the full width. -/
def widePanel (column : Strip) : Strip :=
  let height := column.height + 4
  ⟨frame margin 0 ⟨innerWidth, height⟩ :: column.primitives, height + sectionGap⟩

/-- Two columns in panels side by side. -/
def twinPanels (first second : Strip) : Strip :=
  let height := max first.height second.height + 4
  ⟨frame margin 0 ⟨columnWidth, height⟩ :: frame secondColumn 0 ⟨columnWidth, height⟩
    :: (first.primitives ++ second.primitives), height + sectionGap⟩

theorem frame_lowered (left : Nat) (size : Size) (top : Nat) :
    frame left top size = (frame left 0 size).lowered top := by
  simp [frame]

theorem shifts_column (column : Strip) :
    Shifts fun top => column.primitives.map (Primitive.lowered top) := by
  intro top
  simp

theorem shifts_wideRow (column : Strip) (height : Nat) : Shifts (wideRow column height) :=
  (shifts_column column).cons fun top => frame_lowered margin _ top

theorem shifts_twinRow (first second : Strip) (height : Nat) :
    Shifts (twinRow first second height) := by
  refine ((Shifts.cons (fun top => frame_lowered margin _ top) (Shifts.cons (fun top =>
    frame_lowered secondColumn _ top) fun _ => rfl)).append (shifts_column first)).append
      (shifts_column second)

theorem map_lowered_zero (primitives : List Primitive) :
    primitives.map (Primitive.lowered 0) = primitives :=
  List.map_id primitives

theorem placeWidePanel_eq (column : Strip) (f : Flow) :
    placeWidePanel column f = pure (f.past (widePanel column)) := by
  have hrow : wideRow column (column.height + 4) 0 = (widePanel column).primitives := by
    rw [wideRow, map_lowered_zero]
    rfl
  rw [placeWidePanel, f.put_row (shifts_wideRow column _) (column.height + 4 + sectionGap), hrow]
  rfl

theorem placeTwinPanels_eq (first second : Strip) (f : Flow) :
    placeTwinPanels first second f = pure (f.past (twinPanels first second)) := by
  have hrow : twinRow first second (max first.height second.height + 4) 0 =
      (twinPanels first second).primitives := by
    rw [twinRow, map_lowered_zero, map_lowered_zero]
    rfl
  rw [placeTwinPanels, f.put_row (shifts_twinRow first second _)
    (max first.height second.height + 4 + sectionGap), hrow]
  rfl

namespace Subject

/-! ### The head of a card -/

/-- The strip of the portrait, or some space instead. -/
def portrait (s : Subject) : Strip :=
  match s.icon? .portrait s.student.devName ⟨innerWidth, portraitHeight⟩ with
  | none => .gap portraitGap
  | some p => ⟨[.ofPicture p (centeredOffset canvasWidth p.size.width) 0],
      p.size.height + sectionGap⟩

/-- The strip of the emblem, the name and the affiliation. -/
def identity (s : Subject) : Except Failure Strip := do
  let name ← s.setText ((TextRequest.plain s.student.name 40 darkText).withWidth
    (innerWidth - 72)).inHeading
  let sub ← s.setText ((TextRequest.plain s.affiliation 24 mutedText).withWidth (innerWidth - 72))
  return ⟨s.identityRow name sub 0,
    max (name.size.height + 4 + sub.size.height) iconSide + sectionGap⟩

/-- The strip of chips. -/
def tags (s : Subject) : Except Failure Strip := do
  let chips ← s.chips
  return ⟨s.tagsRow (placeChips s.chipLimit .first chips) 0, s.tagsHeight chips + sectionGap⟩

section
variable (s : Subject)

theorem placePortrait_eq (f : Flow) : s.placePortrait f = pure (f.past s.portrait) := by
  unfold placePortrait portrait
  cases s.icon? .portrait s.student.devName ⟨innerWidth, portraitHeight⟩ with
  | none => exact congrArg _ (f.past_gap portraitGap).symm
  | some p =>
    have hrow : Shifts fun top => [.ofPicture p (centeredOffset canvasWidth p.size.width) top] :=
      fun top => by simp
    simp only
    rw [f.put_row hrow (p.size.height + sectionGap)]
    rfl

theorem shifts_identityRow (name sub : SetText) : Shifts (s.identityRow name sub) :=
  (Shifts.of_picture? (s.icon? .school s.student.school ⟨iconSide, iconSide⟩) margin).append
    fun top => by simp [Nat.add_comm, Nat.add_assoc]

theorem placeIdentity_eq (f : Flow) : s.placeIdentity f = f.past <$> s.identity := by
  simp only [placeIdentity, identity, map_bind, map_pure]
  refine bind_congr fun name => bind_congr fun sub => ?_
  rw [f.put_row (s.shifts_identityRow name sub)
    (max (name.size.height + 4 + sub.size.height) iconSide + sectionGap)]
  rfl

theorem shifts_coverIcon : Shifts s.coverIcon := by
  unfold coverIcon
  split
  · exact Shifts.of_picture? _ coverLeft
  · exact fun _ => rfl

theorem shifts_placedChip (p : PlacedChip) : Shifts p.primitives := by
  intro top
  simp [PlacedChip.primitives, Chip.primitives, Nat.add_comm, Nat.add_assoc]

theorem shifts_tagsRow (placed : List PlacedChip) : Shifts (s.tagsRow placed) :=
  s.shifts_coverIcon.append (Shifts.flatMap fun p _ => shifts_placedChip p)

theorem placeTags_eq (f : Flow) : s.placeTags f = f.past <$> s.tags := by
  simp only [placeTags, tags, map_bind, map_pure]
  refine bind_congr fun chips => ?_
  rw [f.put_row (s.shifts_tagsRow _) (s.tagsHeight chips + sectionGap)]
  rfl

end

/-! ### What a student owns -/

/-- The picture of the weapon. -/
def weaponPicture (s : Subject) : List Strip :=
  (s.icon? .weapon s.student.weaponImage ⟨columnWidth - 24, 96⟩).toList.map fun p =>
    ⟨[.ofPicture p (margin + centeredOffset columnWidth p.size.width) 0], p.size.height + 8⟩

/-- The name of the weapon, unless it is empty. -/
def weaponTitle (s : Subject) : Except Failure (List Strip) :=
  ([s.weaponName].filter (· ≠ "")).mapM fun name => do
    let t ← s.setText ((TextRequest.plain name 24 darkText).withWidth (columnWidth - 24)).centered
    return ⟨[.ofText t (margin + centeredOffset columnWidth t.size.width) 0], t.size.height + 8⟩

/-- The strip of equipment of a category. -/
def equipmentStrip (s : Subject) (category : String) : Except Failure Strip := do
  let t ← s.setText ((TextRequest.plain (s.equipmentName category) 22 darkText).withWidth
    (columnWidth - 72))
  return ⟨s.equipmentRow category t 0, max t.size.height 40 + 8⟩

/-- The strip of the weapon and the equipment. -/
def arms (s : Subject) : Except Failure Strip := do
  let weapon ← s.weapon
  let equipment ← s.equipment
  return twinPanels weapon equipment

section
variable (s : Subject)

theorem addWeaponPicture_follows :
    Follows Strip.above s.addWeaponPicture (.ok s.weaponPicture) := by
  intro c
  unfold addWeaponPicture weaponPicture
  cases s.icon? .weapon s.student.weaponImage ⟨columnWidth - 24, 96⟩ with
  | none => rfl
  | some p =>
    have hrow : Shifts fun top =>
        [.ofPicture p (margin + centeredOffset columnWidth p.size.width) top] :=
      fun top => by simp
    exact congrArg _ (Strip.grown_row hrow c _)

theorem addWeaponName_follows : Follows Strip.above s.addWeaponName s.weaponTitle := by
  intro c
  unfold addWeaponName weaponTitle
  by_cases hname : s.weaponName = ""
  · simp only [hname, if_true]
    rfl
  · have hrow : ∀ t : SetText, Shifts fun top =>
        [.ofText t (margin + centeredOffset columnWidth t.size.width) top] :=
      fun t top => by simp
    simp only [hname, if_false, List.filter_cons, List.filter_nil, ne_eq, not_false_eq_true,
      decide_true, if_true, List.mapM_cons, List.mapM_nil, bind_assoc, map_bind, pure_bind,
      map_pure]
    refine bind_congr fun t => ?_
    rw [Strip.grown_row (hrow t)]
    rfl

theorem weapon_eq : s.weapon = s.stacked "Weapon" margin (do
    let title ← s.weaponTitle
    return s.weaponPicture ++ title) :=
  s.column_bind_eq "Weapon" margin (s.addWeaponPicture_follows.andThen s.addWeaponName_follows)

theorem shifts_equipmentRow (category : String) (t : SetText) :
    Shifts (s.equipmentRow category t) :=
  (Shifts.of_picture? (s.icon? .equipment category ⟨40, 40⟩) (secondColumn + padding : Nat)).append
    fun top => by simp [Nat.add_comm]

theorem addEquipment_eq (c : Strip) (category : String) :
    s.addEquipment c category = c.above <$> s.equipmentStrip category := by
  simp only [addEquipment, equipmentStrip, map_bind, map_pure]
  refine bind_congr fun t => ?_
  rw [Strip.grown_row (s.shifts_equipmentRow category t)]

theorem equipment_eq :
    s.equipment = s.stacked "Equipment" secondColumn (s.student.equipment.mapM s.equipmentStrip) :=
  s.column_bind_eq "Equipment" secondColumn
    (Follows.foldlM fun category _ c => s.addEquipment_eq c category)

theorem placeArms_eq (f : Flow) : s.placeArms f = f.past <$> s.arms := by
  simp only [placeArms, arms, placeTwinPanels_eq, map_bind, map_pure]

end

end Subject

/-- The strip of a grid. -/
def grid (left : Nat) (icons : List (Option Picture)) : Strip :=
  ⟨gridCells left icons 0, gridRows icons.length * gridStride + 4⟩

theorem shifts_gridCells (left : Nat) (icons : List (Option Picture)) :
    Shifts (gridCells left icons) := by
  refine Shifts.flatMap fun (icon, index) _ top => ?_
  cases icon <;> simp [gridCellAt, Nat.add_comm, Nat.add_assoc]

namespace Subject

/-- The strip that tells that there is nothing. -/
def nothing (s : Subject) (left : Nat) : Except Failure Strip := do
  let t ← s.setText (.plain (s.label "None") 22 mutedText)
  return ⟨[.ofText t (left + padding : Nat) 0], t.size.height + 12⟩

/-- The pictures of the welcome gifts. -/
def giftIcons (s : Subject) : List (Option Picture) :=
  s.giftItems.map fun item => s.resources.picture? .item (toString item.id)

/-- The pictures of the furniture, each piece once. -/
def furnitureIcons (s : Subject) : List (Option Picture) :=
  s.student.furniture.eraseDups.map fun id => s.resources.picture? .furniture (toString id)

/-- The strip of the gifts and the furniture. -/
def gifts (s : Subject) : Except Failure Strip := do
  let items ← s.gridColumn "FavorItems" margin s.giftIcons
  let furniture ← s.gridColumn "Furniture" secondColumn s.furnitureIcons
  return twinPanels items furniture

section
variable (s : Subject)

theorem gridColumn_eq (key : String) (left : Nat) (icons : List (Option Picture)) :
    s.gridColumn key left icons = s.stacked key left (do
      if icons.isEmpty then
        let strip ← s.nothing left
        return [strip]
      else return [grid left icons]) := by
  refine s.column_bind_eq key left fun c => ?_
  split
  · have hrow : ∀ t : SetText, Shifts fun top => [.ofText t (left + padding : Nat) top] :=
      fun t top => by simp
    simp only [nothing, bind_assoc, map_bind, pure_bind, map_pure]
    refine bind_congr fun t => ?_
    rw [Strip.grown_row (hrow t)]
    rfl
  · rw [Strip.grown_row (shifts_gridCells left icons)]
    rfl

theorem map_giftBatch :
    (s.giftBatch.map fun (kind, name) => s.resources.picture? kind name) =
      s.giftIcons ++ s.furnitureIcons := by
  rw [giftBatch, List.map_append, List.map_map, List.map_map]
  rfl

/-- The answers to the batch come apart where those of the gifts end. -/
theorem giftAnswers_eq : s.giftAnswers = (s.giftIcons, s.furnitureIcons) := by
  have hlength : s.giftIcons.length = s.giftItems.length := List.length_map _
  rw [giftAnswers, map_giftBatch, List.splitAt_eq, ← hlength, List.take_left, List.drop_left]

theorem placeGifts_eq (f : Flow) : s.placeGifts f = f.past <$> s.gifts := by
  simp only [placeGifts, gifts, giftAnswers_eq, placeTwinPanels_eq, map_bind, map_pure]

end

end Subject

/-! ### What a student can do -/

theorem mem_of_mem_inPairs {α : Type} {l pair : List α} (hpair : pair ∈ inPairs l) {a : α}
    (ha : a ∈ pair) : a ∈ l := by
  fun_induction inPairs l <;> grind

namespace Subject

/-- The strip of the row of terrains. -/
def terrainStrip (s : Subject) : Except Failure Strip := do
  let cells ← (terrains.zip s.student.adaptations).zipIdx.mapM fun ((name, grade), index) =>
    s.terrainCell name grade index 0
  return ⟨cells.flatten, iconSide + 12⟩

/-- The strip of the terrains. -/
def terrain (s : Subject) : Except Failure Strip := do
  let column ← s.stacked "Terrain" margin do
    let row ← s.terrainStrip
    return [row]
  return widePanel column

/-- The strip about the progress. -/
def conditionStrip (s : Subject) : Except Failure Strip := do
  let t ← s.setText ((TextRequest.plain s.condition 20 mutedText).withWidth (innerWidth - 24))
  return ⟨[.ofText t (margin + padding : Nat) 0], t.size.height + 8⟩

/-- The strip of a row of stats. -/
def statStrip (s : Subject) (keys : List StatKey) : Except Failure Strip := do
  let cells ← keys.zipIdx.mapM fun (key, index) => s.statCell key index 0
  return ⟨cells.flatMap Strip.primitives, (cells.map Strip.height).foldl max 28 + 10⟩

/-- The strip of the stats. -/
def statTable (s : Subject) : Except Failure Strip := do
  let column ← s.stacked "Stats" margin do
    let condition ← s.conditionStrip
    let rows ← (inPairs StatKey.card).mapM s.statStrip
    return condition :: rows
  return widePanel column

/-- The strip of a skill. -/
def skillCard (s : Subject) (skill : Skill) : Except Failure Strip := do
  let textWidth := innerWidth - 24 - 80
  let title ← s.setText ((TextRequest.plain skill.name 26 darkText).withWidth textWidth).inHeading
  let kind ← s.setText ((TextRequest.plain (s.skillKindText skill) 20 mutedText).withWidth
    textWidth)
  let spans := richSpans skill.description skill.parameters skill.kind.maxLevel darkText
    s.language s.resources.localization
  let description ← s.setText ((TextRequest.rich spans 22).withWidth textWidth)
  let height :=
    max (title.size.height + 4 + kind.size.height + 8 + description.size.height) 64 + 24
  return ⟨s.skillRow skill title kind description height 0, height + 8⟩

/-- The strip of the heading of the skills. -/
def skillsHeading (s : Subject) : Except Failure Strip := do
  let t ← s.setText ((TextRequest.plain (s.label "Skills") 28 darkText).withWidth
    innerWidth).inHeading
  return ⟨[.ofText t margin 0], t.size.height + 8⟩

/-- The strips of the skills. -/
def skills (s : Subject) : Except Failure (List Strip) := do
  let heading ← s.skillsHeading
  let cards ← s.cardSkills.mapM s.skillCard
  return heading :: cards

/-- The sections of a card from the top. -/
def sections (s : Subject) (watermark : Option String) : Except Failure (List Strip) := do
  let identity ← s.identity
  let tags ← s.tags
  let arms ← s.arms
  let gifts ← s.gifts
  let terrain ← s.terrain
  let stats ← s.statTable
  let skills ← s.skills
  let mark ← s.resources.watermarkStrips canvasWidth watermark
  return [s.portrait, identity, tags, arms, gifts, terrain, stats] ++ skills ++ mark

section
variable (s : Subject)

theorem terrainCell_eq (name : String) (grade index top : Nat) :
    s.terrainCell name grade index top =
      List.map (Primitive.lowered top) <$> s.terrainCell name grade index 0 := by
  simp only [terrainCell, map_bind, map_pure]
  refine bind_congr fun t => ?_
  simp [Function.comp_def, Nat.add_comm]

theorem addTerrains_eq (c : Strip) : s.addTerrains c = c.above <$> s.terrainStrip := by
  simp only [addTerrains, terrainStrip, s.terrainCell_eq _ _ _ c.height, map_bind, map_pure]
  rw [mapM_map_eq, bind_map_left]
  refine bind_congr fun cells => ?_
  rw [Strip.grown, ← List.map_flatten]
  rfl

theorem placeTerrain_eq (f : Flow) : s.placeTerrain f = f.past <$> s.terrain := by
  have hcolumn := s.column_bind_eq "Terrain" margin (Follows.of_strip s.addTerrains_eq)
  simp only [terrain, ← hcolumn, map_bind, map_pure, bind_assoc, placeTerrain, placeWidePanel_eq]

theorem statCell_eq (key : StatKey) (index top : Nat) :
    s.statCell key index top =
      (fun cell => ⟨cell.primitives.map (Primitive.lowered top), cell.height⟩) <$>
        s.statCell key index 0 := by
  simp only [statCell, map_bind, map_pure]
  refine bind_congr fun name => bind_congr fun total => bind_congr fun value => ?_
  simp [Function.comp_def]

theorem addStats_eq (c : Strip) (keys : List StatKey) :
    s.addStats c keys = c.above <$> s.statStrip keys := by
  simp only [addStats, statStrip, s.statCell_eq _ _ c.height, map_bind, map_pure]
  rw [mapM_map_eq, bind_map_left]
  refine bind_congr fun cells => ?_
  simp only [Strip.grown, Strip.above, List.map_flatMap, List.flatMap_map, List.map_map]
  rfl

theorem addCondition_eq (c : Strip) : s.addCondition c = c.above <$> s.conditionStrip := by
  simp only [addCondition, conditionStrip, map_bind, map_pure]
  refine bind_congr fun t => ?_
  have hrow : Shifts fun top => [.ofText t (margin + padding : Nat) top] := fun top => by simp
  rw [Strip.grown_row hrow]

theorem placeStats_eq (f : Flow) : s.placeStats f = f.past <$> s.statTable := by
  have hcolumn := s.column_bind_eq "Stats" margin
    ((Follows.of_strip s.addCondition_eq).andThen (Follows.foldlM (l := inPairs StatKey.card)
      fun keys _ c => s.addStats_eq c keys))
  simp only [bind_assoc, pure_bind, List.singleton_append] at hcolumn
  simp only [statTable, ← hcolumn, map_bind, map_pure, bind_assoc, placeStats, placeWidePanel_eq]

theorem shifts_skillRow (skill : Skill) (title kind description : SetText) (height : Nat) :
    Shifts (s.skillRow skill title kind description height) := by
  have hicon : Shifts (s.skillIcon skill) := by
    intro top
    simp [skillIcon, Nat.add_comm, Nat.add_assoc]
  refine (Shifts.append (fun top => ?_) hicon).append fun top => ?_
  · simp [frame, Nat.add_comm]
  · simp [Nat.add_comm, Nat.add_left_comm]

theorem placeSkill_eq (f : Flow) (skill : Skill) :
    s.placeSkill f skill = f.past <$> s.skillCard skill := by
  simp only [placeSkill, skillCard, map_bind, map_pure]
  refine bind_congr fun title => bind_congr fun kind => bind_congr fun description => ?_
  rw [f.put_row (s.shifts_skillRow skill title kind description _) (max (title.size.height + 4 +
    kind.size.height + 8 + description.size.height) 64 + 24 + 8)]
  rfl

theorem placeSkillsHeading_eq (f : Flow) :
    s.placeSkillsHeading f = f.past <$> s.skillsHeading := by
  simp only [placeSkillsHeading, skillsHeading, map_bind, map_pure]
  refine bind_congr fun t => ?_
  have hrow : Shifts fun top => [.ofText t margin top] := fun top => by simp
  rw [f.put_row hrow (t.size.height + 8)]
  rfl

theorem placeSkills_follows : Follows Flow.past s.placeSkills s.skills := by
  have hskills := (Follows.of_strip s.placeSkillsHeading_eq).andThen
    (Follows.foldlM (l := s.cardSkills) fun skill _ f => s.placeSkill_eq f skill)
  simp only [bind_assoc, pure_bind, List.singleton_append] at hskills
  exact hskills

/-- **A card leaves the strips of its sections, wherever it starts.** -/
theorem place_follows (watermark : Option String) :
    Follows Flow.past (s.place watermark) (s.sections watermark) := by
  intro f
  have hskills (f : Flow) := s.placeSkills_follows f
  have hmark (f : Flow) := s.resources.placeWatermark_follows canvasWidth watermark f
  simp only [place, placePortrait_eq, placeIdentity_eq, placeTags_eq, placeArms_eq, placeGifts_eq,
    placeTerrain_eq, placeStats_eq, hskills, hmark, sections, map_eq_pure_bind, bind_assoc,
    pure_bind, List.foldl_append, List.foldl_cons, List.foldl_nil]

end

end Subject

/-! ### Whole cards -/

/-- What is shown on the card of a student. -/
def subjectOf (resources : Resources) (progress : Progress) (student : Student)
    (language : Language) : Subject :=
  ⟨resources, progress, (resources.catalog.findById? student.id language).getD student, language⟩

theorem render_eq_finish (resources : Resources) (progress : Progress) (student : Student)
    (language : Language) (watermark : Option String) :
    render resources progress student language watermark =
      (subjectOf resources progress student language).sections watermark >>= fun strips =>
        (Flow.start canvasWidth margin).addStrips strips >>= (·.finish background minHeight) := by
  rw [← bind_assoc, ← ((subjectOf resources progress student language).place_follows
    watermark).eq_addStrips]
  rfl

end Card
end DialogueSheet
