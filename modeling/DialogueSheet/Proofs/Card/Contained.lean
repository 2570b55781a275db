/-
# What the sections of a card draw

A section counts its height beside the offsets at which it draws.  The two agree in every
section but one, whatever heights its texts have.  The row of terrains has a fixed height, and
its labels may be of any: that section is contained exactly when they are at most as high as
the row and the space below it (`terrain_contained_iff`).
-/
import DialogueSheet.Proofs.Card.Strips
import DialogueSheet.Proofs.Raster.Fitted
import DialogueSheet.Proofs.Typeset.Breaking

namespace DialogueSheet
namespace Card

/-! ### Icons -/

/-- A box that icons can be fitted into. -/
structure IconBox (box : Size) : Prop where
  width_pos : 0 < box.width
  height_pos : 0 < box.height
  side_le : max box.width box.height ≤ 2 ^ 20

instance (box : Size) : Decidable (IconBox box) :=
  decidable_of_iff (0 < box.width ∧ 0 < box.height ∧ max box.width box.height ≤ 2 ^ 20)
    ⟨fun h => ⟨h.1, h.2.1, h.2.2⟩, fun h => ⟨h.1, h.2, h.3⟩⟩

theorem IconBox.fitWithin_le {box : Size} (h : IconBox box) (size : Size) :
    (size.fitWithin box).width ≤ box.width ∧ (size.fitWithin box).height ≤ box.height :=
  size.fitWithin_le h.width_pos h.height_pos h.side_le

namespace Subject

variable {s : Subject}

/-- An icon is no larger than its box. -/
theorem icon_le {kind : AssetKind} {name : String} {box : Size} {icon : Picture}
    (h : s.icon? kind name box = some icon) (hbox : IconBox box) :
    icon.size.width ≤ box.width ∧ icon.size.height ≤ box.height := by
  obtain ⟨picture, -, rfl⟩ := Option.map_eq_some_iff.1 h
  exact hbox.fitWithin_le picture.size

theorem icon_bottom_le {kind : AssetKind} {name : String} {box : Size} {left : Int} {top : Nat}
    {p : Primitive} (hbox : IconBox box)
    (hp : p ∈ (s.icon? kind name box).toList.map (Primitive.ofPicture · left top)) :
    p.bottom ≤ top + box.height := by
  obtain ⟨icon, hicon, rfl⟩ := List.mem_map.1 hp
  have hsize := (icon_le (Option.mem_toList.1 hicon) hbox).2
  rw [Primitive.bottom_ofPicture]
  omega

/-! ### Columns -/

theorem of_heading {key : String} {left : Nat} {strip : Strip}
    (h : s.heading key left = .ok strip) : strip.Contained := by
  obtain ⟨t, -, hstrip⟩ := bind_eq_ok_iff.1 h
  obtain rfl := Except.ok.inj hstrip
  simp [Strip.Contained]

theorem of_stacked {key : String} {left : Nat} {body : Except Failure (List Strip)}
    {column : Strip} (h : s.stacked key left body = .ok column) :
    ∃ heading strips, s.heading key left = .ok heading ∧ body = .ok strips ∧
      column = Strip.stack (.gap padding :: heading :: strips) := by
  obtain ⟨heading, hheading, hrest⟩ := bind_eq_ok_iff.1 h
  obtain ⟨strips, hbody, hcolumn⟩ := bind_eq_ok_iff.1 hrest
  exact ⟨heading, strips, hheading, hbody, (Except.ok.inj hcolumn).symm⟩

/-- A column of contained strips is contained. -/
theorem stacked_contained {key : String} {left : Nat} {body : Except Failure (List Strip)}
    {column : Strip} (h : s.stacked key left body = .ok column)
    (hbody : ∀ strips, body = .ok strips → ∀ strip ∈ strips, strip.Contained) :
    column.Contained := by
  obtain ⟨heading, strips, hheading, hstrips, rfl⟩ := of_stacked h
  refine Strip.Contained.stack fun strip hstrip => ?_
  rcases List.mem_cons.1 hstrip with rfl | hstrip
  · exact Strip.contained_gap padding
  rcases List.mem_cons.1 hstrip with rfl | hstrip
  · exact of_heading hheading
  · exact hbody strips hstrips strip hstrip

end Subject

/-! ### Panels -/

@[simp] theorem bottom_frame (left top : Nat) (size : Size) :
    (frame left top size).bottom = top + size.height := by
  simp [frame]

/-- What a panel leaves free below its column. -/
def panelRoom : Nat := 4 + sectionGap

/-- A panel is contained when its column draws nothing below the room of the panel. -/
theorem widePanel_contained_iff (column : Strip) :
    (widePanel column).Contained ↔
      ∀ p ∈ column.primitives, p.bottom ≤ column.height + panelRoom := by
  simp only [Strip.Contained, widePanel, panelRoom, List.forall_mem_cons, bottom_frame]
  constructor
  · rintro ⟨-, hcolumn⟩ p hp
    have hbottom := hcolumn p hp
    omega
  · intro hcolumn
    refine ⟨by omega, fun p hp => ?_⟩
    have hbottom := hcolumn p hp
    omega

theorem widePanel_contained {column : Strip} (h : column.Contained) :
    (widePanel column).Contained :=
  (widePanel_contained_iff column).2 fun p hp => Nat.le_trans (h p hp) (Nat.le_add_right ..)

theorem twinPanels_contained {first second : Strip} (hfirst : first.Contained)
    (hsecond : second.Contained) : (twinPanels first second).Contained := by
  intro p hp
  simp only [twinPanels] at hp ⊢
  rcases List.mem_cons.1 hp with rfl | hp
  · rw [bottom_frame]
    simp only
    omega
  rcases List.mem_cons.1 hp with rfl | hp
  · rw [bottom_frame]
    simp only
    omega
  rcases List.mem_append.1 hp with hp | hp
  · have hbottom := hfirst p hp
    omega
  · have hbottom := hsecond p hp
    omega

/-! ### Rows of chips -/

theorem Chip.bottom_le {c : Chip} {left top : Nat} {p : Primitive}
    (hp : p ∈ c.primitives left top) : p.bottom ≤ top + c.size.height := by
  simp only [Chip.primitives, List.mem_cons, List.not_mem_nil, or_false] at hp
  rcases hp with rfl | rfl
  · simp
  · simp [Chip.size]
    omega

theorem ChipRow.le_taking (r : ChipRow) (limit width : Nat) :
    r.top + r.height ≤ (r.taking limit width).top + (r.taking limit width).height := by
  unfold taking
  split
  · simp only
    omega
  · exact Nat.le_refl _

/-- Rows that have begun are counted. -/
theorem le_chipsHeight (limit : Nat) (r : ChipRow) (chips : List Chip) :
    r.top + r.height ≤ chipsHeight limit r chips := by
  induction chips generalizing r with
  | nil => exact Nat.le_refl _
  | cons c rest ih =>
    have htaking := r.le_taking limit c.size.width
    have hrest := ih ((r.taking limit c.size.width).after c.size)
    simp only [ChipRow.after] at hrest
    rw [chipsHeight]
    simp only [ChipRow.after]
    omega

/-- A chip ends within the height of the rows. -/
theorem placeChips_bottom_le {limit : Nat} {r : ChipRow} {chips : List Chip}
    {placed : PlacedChip} (h : placed ∈ placeChips limit r chips) {p : Primitive}
    (hp : p ∈ placed.primitives 0) : p.bottom ≤ chipsHeight limit r chips := by
  induction chips generalizing r with
  | nil => simp [placeChips] at h
  | cons c rest ih =>
    rcases List.mem_cons.1 h with rfl | h
    · have hbottom : p.bottom ≤ _ + _ := Chip.bottom_le hp
      have hrow := le_chipsHeight limit ((r.taking limit c.size.width).after c.size) rest
      simp only [ChipRow.after] at hrow hbottom
      rw [chipsHeight]
      simp only [ChipRow.after]
      omega
    · exact ih h

/-! ### Grids -/

theorem gridCellAt_bottom_le {left index : Nat} {icon : Option Picture} {p : Primitive}
    (hp : p ∈ gridCellAt left 0 index icon) :
    p.bottom ≤ index / gridColumns * gridStride + gridCell := by
  rcases List.mem_cons.1 hp with rfl | hp
  · simp
  · obtain ⟨picture, -, rfl⟩ := List.mem_map.1 hp
    have hbox : IconBox ⟨gridCell - 8, gridCell - 8⟩ := by decide
    have hsize : (picture.size.fitWithin ⟨gridCell - 8, gridCell - 8⟩).height ≤ gridCell - 8 :=
      (hbox.fitWithin_le picture.size).2
    rw [Primitive.bottom_ofPicture]
    simp only
    omega

/-- Every row of a grid is counted, that of the last cell too. -/
theorem grid_contained (left : Nat) (icons : List (Option Picture)) :
    (grid left icons).Contained := by
  intro p hp
  obtain ⟨⟨icon, index⟩, hcell, hp⟩ := List.mem_flatMap.1 hp
  have hindex : index < icons.length := by
    have hlt := List.mem_zipIdx hcell
    omega
  have hbottom := gridCellAt_bottom_le hp
  have hrow : index / gridColumns + 1 ≤ gridRows icons.length := by
    simp only [gridRows, gridColumns]
    omega
  have hrows : (index / gridColumns + 1) * gridStride ≤ gridRows icons.length * gridStride :=
    Nat.mul_le_mul_right _ hrow
  rw [Nat.succ_mul] at hrows
  have hstride : gridCell ≤ gridStride := by decide
  simp only [grid]
  omega

namespace Subject

variable {s : Subject}

/-! ### The head of a card -/

theorem portrait_contained (s : Subject) : s.portrait.Contained := by
  unfold portrait
  split
  · exact Strip.contained_gap portraitGap
  · simp [Strip.Contained]

theorem identity_contained {strip : Strip} (h : s.identity = .ok strip) : strip.Contained := by
  obtain ⟨name, -, hrest⟩ := bind_eq_ok_iff.1 h
  obtain ⟨sub, -, hstrip⟩ := bind_eq_ok_iff.1 hrest
  obtain rfl := Except.ok.inj hstrip
  intro p hp
  rcases List.mem_append.1 hp with hp | hp
  · have hicon := icon_bottom_le (by decide) hp
    simp only at hicon ⊢
    omega
  · simp only [List.mem_cons, List.not_mem_nil, or_false] at hp
    rcases hp with rfl | rfl <;> simp <;> omega

theorem coverIcon_bottom_le {p : Primitive} (hp : p ∈ s.coverIcon 0) :
    s.student.cover = true ∧ p.bottom ≤ iconSide := by
  unfold coverIcon at hp
  split at hp
  · rename_i hcover
    have hicon := icon_bottom_le (by decide) hp
    exact ⟨hcover, by simpa using hicon⟩
  · simp at hp

/-- The section of chips is as high as their rows, and as the cover icon if there is one. -/
theorem le_tagsHeight (s : Subject) (chips : List Chip) :
    chipsHeight s.chipLimit .first chips ≤ s.tagsHeight chips ∧
      (s.student.cover = true → iconSide ≤ s.tagsHeight chips) := by
  unfold tagsHeight
  dsimp only
  split
  · exact ⟨Nat.le_max_left .., fun _ => Nat.le_max_right ..⟩
  · rename_i hcover
    exact ⟨Nat.le_refl _, fun h => absurd h hcover⟩

theorem tags_contained {strip : Strip} (h : s.tags = .ok strip) : strip.Contained := by
  obtain ⟨chips, -, hstrip⟩ := bind_eq_ok_iff.1 h
  obtain rfl := Except.ok.inj hstrip
  obtain ⟨hchips, hicon⟩ := s.le_tagsHeight chips
  intro p hp
  simp only
  rcases List.mem_append.1 hp with hp | hp
  · obtain ⟨hcover, hbottom⟩ := coverIcon_bottom_le hp
    have hheight := hicon hcover
    omega
  · obtain ⟨placed, hplaced, hp⟩ := List.mem_flatMap.1 hp
    have hbottom := placeChips_bottom_le hplaced hp
    omega

/-! ### What a student owns -/

theorem weaponPicture_contained {strip : Strip} (h : strip ∈ s.weaponPicture) :
    strip.Contained := by
  obtain ⟨icon, -, rfl⟩ := List.mem_map.1 h
  simp [Strip.Contained]

theorem weaponTitle_contained {strips : List Strip} (h : s.weaponTitle = .ok strips)
    {strip : Strip} (hstrip : strip ∈ strips) : strip.Contained := by
  obtain ⟨name, -, hname⟩ := exists_of_mem_mapM h hstrip
  obtain ⟨t, -, hstrip⟩ := bind_eq_ok_iff.1 hname
  obtain rfl := Except.ok.inj hstrip
  simp [Strip.Contained]

theorem weapon_contained {column : Strip} (h : s.weapon = .ok column) : column.Contained := by
  rw [weapon_eq] at h
  refine stacked_contained h fun strips hstrips strip hstrip => ?_
  obtain ⟨titles, htitles, hstrips⟩ := bind_eq_ok_iff.1 hstrips
  obtain rfl := Except.ok.inj hstrips
  rcases List.mem_append.1 hstrip with hstrip | hstrip
  · exact weaponPicture_contained hstrip
  · exact weaponTitle_contained htitles hstrip

theorem equipmentStrip_contained {category : String} {strip : Strip}
    (h : s.equipmentStrip category = .ok strip) : strip.Contained := by
  obtain ⟨t, -, hstrip⟩ := bind_eq_ok_iff.1 h
  obtain rfl := Except.ok.inj hstrip
  intro p hp
  rcases List.mem_append.1 hp with hp | hp
  · have hicon := icon_bottom_le (by decide) hp
    simp only at hicon ⊢
    omega
  · rw [List.mem_singleton.1 hp]
    simp
    omega

theorem arms_contained {strip : Strip} (h : s.arms = .ok strip) : strip.Contained := by
  obtain ⟨weapon, hweapon, hrest⟩ := bind_eq_ok_iff.1 h
  obtain ⟨equipment, hequipment, hstrip⟩ := bind_eq_ok_iff.1 hrest
  obtain rfl := Except.ok.inj hstrip
  rw [equipment_eq] at hequipment
  refine twinPanels_contained (weapon_contained hweapon) (stacked_contained hequipment ?_)
  intro strips hstrips strip hstrip
  obtain ⟨category, -, hrow⟩ := exists_of_mem_mapM hstrips hstrip
  exact equipmentStrip_contained hrow

theorem gridColumn_contained {key : String} {left : Nat} {icons : List (Option Picture)}
    {column : Strip} (h : s.gridColumn key left icons = .ok column) : column.Contained := by
  rw [gridColumn_eq] at h
  refine stacked_contained h fun strips hstrips strip hstrip => ?_
  split at hstrips
  · obtain ⟨none, hnone, hstrips⟩ := bind_eq_ok_iff.1 hstrips
    obtain ⟨t, -, hnone⟩ := bind_eq_ok_iff.1 hnone
    obtain rfl := Except.ok.inj hstrips
    obtain rfl := List.mem_singleton.1 hstrip
    obtain rfl := Except.ok.inj hnone
    simp [Strip.Contained]
  · obtain rfl := Except.ok.inj hstrips
    obtain rfl := List.mem_singleton.1 hstrip
    exact grid_contained left icons

theorem gifts_contained {strip : Strip} (h : s.gifts = .ok strip) : strip.Contained := by
  obtain ⟨items, hitems, hrest⟩ := bind_eq_ok_iff.1 h
  obtain ⟨furniture, hfurniture, hstrip⟩ := bind_eq_ok_iff.1 hrest
  obtain rfl := Except.ok.inj hstrip
  exact twinPanels_contained (gridColumn_contained hitems) (gridColumn_contained hfurniture)

/-! ### The terrains -/

/-- The label of a terrain. -/
def terrainLabel (s : Subject) (name : String) : TextRequest :=
  (TextRequest.plain (s.label name) 22 darkText).withWidth (terrainWidth - 120)

/-- The height of the row of terrains with what is free below it. -/
def terrainRoom : Nat := iconSide + 12 + panelRoom

/-- The labels of the terrains leave nothing of their own below the section. -/
def TerrainFits (s : Subject) : Prop :=
  ∀ name ∈ terrains, ∀ t, s.setText (s.terrainLabel name) = .ok t → t.size.height ≤ terrainRoom

/-- The icons of a terrain end within the row; its label may end lower. -/
theorem terrainCell_bottom_le_iff {name : String} {grade index : Nat} {cell : List Primitive}
    (h : s.terrainCell name grade index 0 = .ok cell) :
    (∀ p ∈ cell, p.bottom ≤ terrainRoom) ↔
      ∀ t, s.setText (s.terrainLabel name) = .ok t → t.size.height ≤ terrainRoom := by
  obtain ⟨t, ht, hcell⟩ := bind_eq_ok_iff.1 h
  obtain rfl := Except.ok.inj hcell
  have hside : iconSide ≤ terrainRoom := by decide
  have hicon : ∀ {name : String} {left : Int} {p : Primitive},
      p ∈ (s.icon? .ui name ⟨iconSide, iconSide⟩).toList.map (Primitive.ofPicture · left 0) →
        p.bottom ≤ terrainRoom := fun hp => by
    have hbottom := icon_bottom_le (by decide) hp
    simp only at hbottom
    omega
  constructor
  · intro hall t' ht'
    obtain rfl := Except.ok.inj (ht.symm.trans ht')
    have hlabel := hall _ (List.mem_append_right _ List.mem_cons_self)
    rw [Primitive.bottom_ofText] at hlabel
    omega
  · intro hlabel p hp
    have hheight := hlabel t ht
    rcases List.mem_append.1 hp with hp | hp
    · exact hicon hp
    rcases List.mem_cons.1 hp with rfl | hp
    · rw [Primitive.bottom_ofText]
      omega
    · exact hicon hp

theorem terrainStrip_bottom_le_iff {row : Strip} (h : s.terrainStrip = .ok row) :
    row.height = iconSide + 12 ∧
      ((∀ p ∈ row.primitives, p.bottom ≤ terrainRoom) ↔ s.TerrainFits) := by
  obtain ⟨cells, hcells, hrow⟩ := bind_eq_ok_iff.1 h
  obtain rfl := Except.ok.inj hrow
  refine ⟨rfl, ?_⟩
  -- three terrains, three cells
  cases forall₂_of_mapM_eq_ok hcells with
  | cons hstreet hrest =>
    cases hrest with
    | cons houtdoor hrest =>
      cases hrest with
      | cons hindoor hrest =>
        cases hrest
        simp only [TerrainFits, terrains, List.forall_mem_cons, ← terrainCell_bottom_le_iff hstreet,
          ← terrainCell_bottom_le_iff houtdoor, ← terrainCell_bottom_le_iff hindoor]
        simp [or_imp, forall_and]

/-- **The section of the terrains is contained exactly when their labels fit.** -/
theorem terrain_contained_iff {strip : Strip} (h : s.terrain = .ok strip) :
    strip.Contained ↔ s.TerrainFits := by
  obtain ⟨column, hcolumn, hstrip⟩ := bind_eq_ok_iff.1 h
  obtain rfl := Except.ok.inj hstrip
  obtain ⟨heading, strips, hheading, hbody, rfl⟩ := of_stacked hcolumn
  obtain ⟨row, hrow, hstrips⟩ := bind_eq_ok_iff.1 hbody
  obtain rfl := Except.ok.inj hstrips
  obtain ⟨hheight, hfits⟩ := terrainStrip_bottom_le_iff hrow
  have hupper : (Strip.stack [.gap padding, heading]).Contained := by
    refine Strip.Contained.stack fun strip hstrip => ?_
    simp only [List.mem_cons, List.not_mem_nil, or_false] at hstrip
    rcases hstrip with rfl | rfl
    · exact Strip.contained_gap padding
    · exact of_heading hheading
  have hcolumn : Strip.stack [.gap padding, heading, row] =
      (Strip.stack [.gap padding, heading]).above row := by
    rw [← Strip.stack_singleton row, ← Strip.stack_append, Strip.stack_singleton]
    rfl
  have hroom : terrainRoom = row.height + panelRoom := by rw [hheight]; rfl
  rw [widePanel_contained_iff, hcolumn, Strip.above_bottom_le_iff hupper, ← hroom, hfits]

/-! ### What a student can do -/

theorem conditionStrip_contained {strip : Strip} (h : s.conditionStrip = .ok strip) :
    strip.Contained := by
  obtain ⟨t, -, hstrip⟩ := bind_eq_ok_iff.1 h
  obtain rfl := Except.ok.inj hstrip
  simp [Strip.Contained]

/-- The icon of a stat may be higher than the texts beside it, but not than the row. -/
theorem statCell_bottom_le {key : StatKey} {index : Nat} {cell : Strip}
    (h : s.statCell key index 0 = .ok cell) {p : Primitive} (hp : p ∈ cell.primitives) :
    p.bottom ≤ max 28 cell.height := by
  obtain ⟨name, -, hrest⟩ := bind_eq_ok_iff.1 h
  obtain ⟨total, -, hrest⟩ := bind_eq_ok_iff.1 hrest
  obtain ⟨value, -, hcell⟩ := bind_eq_ok_iff.1 hrest
  obtain rfl := Except.ok.inj hcell
  rcases List.mem_append.1 hp with hp | hp
  · have hicon := icon_bottom_le (by decide) hp
    simp only at hicon ⊢
    omega
  · simp only [List.mem_cons, List.not_mem_nil, or_false] at hp
    rcases hp with rfl | rfl <;> simp

theorem statStrip_contained {keys : List StatKey} {strip : Strip}
    (h : s.statStrip keys = .ok strip) : strip.Contained := by
  obtain ⟨cells, hcells, hstrip⟩ := bind_eq_ok_iff.1 h
  obtain rfl := Except.ok.inj hstrip
  intro p hp
  obtain ⟨cell, hcell, hp⟩ := List.mem_flatMap.1 hp
  obtain ⟨⟨key, index⟩, -, hset⟩ := exists_of_mem_mapM hcells hcell
  have hbottom := statCell_bottom_le hset hp
  obtain ⟨hleast, hheights⟩ := CellText.foldl_max_le_iff.1
    (Nat.le_refl ((cells.map Strip.height).foldl max 28))
  have hheight := hheights _ (List.mem_map_of_mem hcell)
  simp only
  omega

theorem statTable_contained {strip : Strip} (h : s.statTable = .ok strip) :
    strip.Contained := by
  obtain ⟨column, hcolumn, hstrip⟩ := bind_eq_ok_iff.1 h
  obtain rfl := Except.ok.inj hstrip
  refine widePanel_contained (stacked_contained hcolumn fun strips hstrips strip hstrip => ?_)
  obtain ⟨condition, hcondition, hrest⟩ := bind_eq_ok_iff.1 hstrips
  obtain ⟨rows, hrows, hstrips⟩ := bind_eq_ok_iff.1 hrest
  obtain rfl := Except.ok.inj hstrips
  rcases List.mem_cons.1 hstrip with rfl | hstrip
  · exact conditionStrip_contained hcondition
  · obtain ⟨keys, -, hrow⟩ := exists_of_mem_mapM hrows hstrip
    exact statStrip_contained hrow

theorem skillIcon_bottom_le {skill : Skill} {p : Primitive} (hp : p ∈ s.skillIcon skill 0) :
    p.bottom ≤ 70 := by
  obtain ⟨icon, hicon, rfl⟩ := List.mem_map.1 hp
  have hsize := (icon_le (Option.mem_toList.1 hicon) (by decide)).2
  simp only [Primitive.bottom_ofPicture] at hsize ⊢
  omega

theorem skillCard_contained {skill : Skill} {strip : Strip} (h : s.skillCard skill = .ok strip) :
    strip.Contained := by
  obtain ⟨title, -, hrest⟩ := bind_eq_ok_iff.1 h
  obtain ⟨kind, -, hrest⟩ := bind_eq_ok_iff.1 hrest
  obtain ⟨description, -, hstrip⟩ := bind_eq_ok_iff.1 hrest
  obtain rfl := Except.ok.inj hstrip
  intro p hp
  rcases List.mem_append.1 hp with hp | hp
  · rcases List.mem_append.1 hp with hp | hp
    · simp only [List.mem_cons, List.not_mem_nil, or_false] at hp
      rcases hp with rfl | rfl <;> simp
    · have hicon := skillIcon_bottom_le hp
      simp only
      omega
  · simp only [List.mem_cons, List.not_mem_nil, or_false] at hp
    rcases hp with rfl | rfl | rfl <;> simp <;> omega

theorem skills_contained {strips : List Strip} (h : s.skills = .ok strips) {strip : Strip}
    (hstrip : strip ∈ strips) : strip.Contained := by
  obtain ⟨heading, hheading, hrest⟩ := bind_eq_ok_iff.1 h
  obtain ⟨cards, hcards, hstrips⟩ := bind_eq_ok_iff.1 hrest
  obtain rfl := Except.ok.inj hstrips
  rcases List.mem_cons.1 hstrip with rfl | hstrip
  · obtain ⟨t, -, hheading⟩ := bind_eq_ok_iff.1 hheading
    obtain rfl := Except.ok.inj hheading
    simp [Strip.Contained]
  · obtain ⟨skill, -, hcard⟩ := exists_of_mem_mapM hcards hstrip
    exact skillCard_contained hcard

end Subject
end Card
end DialogueSheet
