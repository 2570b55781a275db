/-
# A whole card in slots

Nothing but a text that cannot be measured stops the layout of a card.  Its sections fill
slots one below the other exactly when the labels of the terrains fit
(`sections_clear_iff`); set in cells they do in every language.  A measure that sets them
higher than their row lets them run into the stats below (`sections_overlap`).
-/
import DialogueSheet.Proofs.Card.Contained

namespace DialogueSheet
namespace Card
namespace Subject

variable {s : Subject}

/-! ### What stops a layout -/

theorem stopsAt_stacked (key : String) (left : Nat) {body : Except Failure (List Strip)}
    (hbody : StopsAt s.resources.measure body) :
    StopsAt s.resources.measure (s.stacked key left body) :=
  ((StopsAt.setText s.resources _).bind fun _ => StopsAt.ok _).bind fun _ =>
    hbody.bind fun _ => StopsAt.ok _

theorem stopsAt_gridColumn (key : String) (left : Nat) (icons : List (Option Picture)) :
    StopsAt s.resources.measure (s.gridColumn key left icons) := by
  rw [gridColumn_eq]
  refine stopsAt_stacked key left ?_
  split
  · exact ((StopsAt.setText s.resources _).bind fun _ => StopsAt.ok _).bind fun _ => StopsAt.ok _
  · exact StopsAt.ok _

theorem stopsAt_sections (watermark : Option String) :
    StopsAt s.resources.measure (s.sections watermark) := by
  have htext := StopsAt.setText s.resources
  have hidentity : StopsAt s.resources.measure s.identity :=
    (htext _).bind fun _ => (htext _).bind fun _ => StopsAt.ok _
  have htags : StopsAt s.resources.measure s.tags :=
    (StopsAt.mapM fun _ _ => (htext _).bind fun _ => StopsAt.ok _).bind fun _ => StopsAt.ok _
  have harms : StopsAt s.resources.measure s.arms := by
    rw [arms, weapon_eq, equipment_eq]
    refine (stopsAt_stacked _ _ ?_).bind fun _ =>
      (stopsAt_stacked _ _ ?_).bind fun _ => StopsAt.ok _
    · exact (StopsAt.mapM fun _ _ => (htext _).bind fun _ => StopsAt.ok _).bind fun _ =>
        StopsAt.ok _
    · exact StopsAt.mapM fun _ _ => (htext _).bind fun _ => StopsAt.ok _
  have hgifts : StopsAt s.resources.measure s.gifts :=
    (stopsAt_gridColumn _ _ _).bind fun _ => (stopsAt_gridColumn _ _ _).bind fun _ => StopsAt.ok _
  have hterrain : StopsAt s.resources.measure s.terrain := by
    refine (stopsAt_stacked _ _ (StopsAt.bind ?_ fun _ => StopsAt.ok _)).bind fun _ => StopsAt.ok _
    exact (StopsAt.mapM fun _ _ => (htext _).bind fun _ => StopsAt.ok _).bind fun _ =>
      StopsAt.ok _
  have hstats : StopsAt s.resources.measure s.statTable := by
    refine (stopsAt_stacked _ _ ?_).bind fun _ => StopsAt.ok _
    refine ((htext _).bind fun _ => StopsAt.ok _).bind fun _ =>
      (StopsAt.mapM fun keys hkeys => ?_).bind fun _ => StopsAt.ok _
    refine (StopsAt.mapM fun cell hcell => ?_).bind fun _ => StopsAt.ok _
    -- no card shows the one stat whose text can overflow
    have hkey := mem_of_mem_inPairs hkeys (List.fst_mem_of_mem_zipIdx hcell)
    obtain ⟨text, htotal⟩ := s.stats.exists_totalText (StatKey.ne_damagedRatio_of_mem_card hkey)
    refine (htext _).bind fun _ => StopsAt.bind ?_ fun _ => (htext _).bind fun _ => StopsAt.ok _
    exact htotal ▸ StopsAt.ok text
  have hskills : StopsAt s.resources.measure s.skills := by
    refine ((htext _).bind fun _ => StopsAt.ok _).bind fun _ =>
      (StopsAt.mapM fun _ _ => ?_).bind fun _ => StopsAt.ok _
    exact (htext _).bind fun _ => (htext _).bind fun _ => (htext _).bind fun _ => StopsAt.ok _
  exact hidentity.bind fun _ => htags.bind fun _ => harms.bind fun _ => hgifts.bind fun _ =>
    hterrain.bind fun _ => hstats.bind fun _ => hskills.bind fun _ =>
      (s.resources.stopsAt_watermarkStrips canvasWidth watermark).bind fun _ => StopsAt.ok _

theorem stopsAt_place (watermark : Option String) (f : Flow) :
    StopsAt s.resources.measure (s.place watermark f) :=
  StopsAt.of_follows (s.place_follows watermark) (stopsAt_sections watermark) f

/-! ### The sections -/

/-- The parts that sections come from. -/
theorem of_sections {watermark : Option String} {strips : List Strip}
    (h : s.sections watermark = .ok strips) :
    ∃ identity tags arms gifts terrain stats skills mark, s.identity = .ok identity ∧
      s.tags = .ok tags ∧ s.arms = .ok arms ∧ s.gifts = .ok gifts ∧ s.terrain = .ok terrain ∧
      s.statTable = .ok stats ∧ s.skills = .ok skills ∧
      s.resources.watermarkStrips canvasWidth watermark = .ok mark ∧
      strips = [s.portrait, identity, tags, arms, gifts, terrain, stats] ++ skills ++ mark := by
  obtain ⟨identity, hidentity, h⟩ := bind_eq_ok_iff.1 h
  obtain ⟨tags, htags, h⟩ := bind_eq_ok_iff.1 h
  obtain ⟨arms, harms, h⟩ := bind_eq_ok_iff.1 h
  obtain ⟨gifts, hgifts, h⟩ := bind_eq_ok_iff.1 h
  obtain ⟨terrain, hterrain, h⟩ := bind_eq_ok_iff.1 h
  obtain ⟨stats, hstats, h⟩ := bind_eq_ok_iff.1 h
  obtain ⟨skills, hskills, h⟩ := bind_eq_ok_iff.1 h
  obtain ⟨mark, hmark, h⟩ := bind_eq_ok_iff.1 h
  exact ⟨identity, tags, arms, gifts, terrain, stats, skills, mark, hidentity, htags, harms,
    hgifts, hterrain, hstats, hskills, hmark, (Except.ok.inj h).symm⟩

/-- A section is that of the terrains, or contained. -/
theorem section_contained {watermark : Option String} {strips : List Strip}
    (h : s.sections watermark = .ok strips) {strip : Strip} (hstrip : strip ∈ strips) :
    s.terrain = .ok strip ∨ strip.Contained := by
  obtain ⟨identity, tags, arms, gifts, terrain, stats, skills, mark, hidentity, htags, harms,
    hgifts, hterrain, hstats, hskills, hmark, rfl⟩ := of_sections h
  rcases List.mem_append.1 hstrip with hstrip | hstrip
  · rcases List.mem_append.1 hstrip with hstrip | hstrip
    · simp only [List.mem_cons, List.not_mem_nil, or_false] at hstrip
      rcases hstrip with rfl | rfl | rfl | rfl | rfl | rfl | rfl
      · exact .inr s.portrait_contained
      · exact .inr (identity_contained hidentity)
      · exact .inr (tags_contained htags)
      · exact .inr (arms_contained harms)
      · exact .inr (gifts_contained hgifts)
      · exact .inl hterrain
      · exact .inr (statTable_contained hstats)
    · exact .inr (skills_contained hskills hstrip)
  · obtain ⟨mark, t, -, rfl⟩ := Resources.of_mem_watermarkStrips hmark hstrip
    exact .inr (by simp [Strip.Contained])

/-- All sections are contained exactly when the labels of the terrains fit. -/
theorem sections_contained_iff {watermark : Option String} {strips : List Strip}
    (h : s.sections watermark = .ok strips) :
    (∀ strip ∈ strips, strip.Contained) ↔ s.TerrainFits := by
  constructor
  · intro hall
    obtain ⟨_, _, _, _, terrain, _, _, _, -, -, -, -, hterrain, -, -, -, rfl⟩ := of_sections h
    exact (terrain_contained_iff hterrain).1 (hall terrain (by simp))
  · intro hfits strip hstrip
    rcases section_contained h hstrip with hterrain | hcontained
    · exact (terrain_contained_iff hterrain).2 hfits
    · exact hcontained

/-- Set in cells, the labels of the terrains fit in every language. -/
theorem terrainFits_of_cells (hcells : s.resources.measure = CellText.measure) :
    s.TerrainFits := by
  have hlabels : ∀ name ∈ terrains, ∀ language ∈ Language.all,
      (CellText.textSize ((TextRequest.plain (Label.text name language) 22 darkText).withWidth
        (terrainWidth - 120))).height ≤ terrainRoom := by decide +kernel
  intro name hname t ht
  rw [Resources.size_of_setText hcells ht]
  exact hlabels name hname s.language (by cases s.language <;> decide)

end Subject

/-- **The sections of a card keep clear of each other exactly when the labels of its terrains
fit.** -/
theorem sections_clear_iff (resources : Resources) (progress : Progress) (student : Student)
    (language : Language) (watermark : Option String) :
    let s := subjectOf resources progress student language
    (∀ kind name box icon, IconBox box → s.icon? kind name box = some icon →
      icon.size.width ≤ box.width ∧ icon.size.height ≤ box.height) ∧
    StopsAt resources.measure (s.sections watermark) ∧
    (∀ f, StopsAt resources.measure (s.place watermark f) ∧
      s.place watermark f = s.sections watermark >>= f.addStrips) ∧
    (resources.measure = CellText.measure → s.TerrainFits) ∧
    ∀ strips, s.sections watermark = .ok strips →
      ∃ f, (Flow.start canvasWidth margin).addStrips strips = .ok f ∧
        (∀ strip ∈ strips, s.terrain = .ok strip ∨ strip.Contained) ∧
        ((∀ strip ∈ strips, strip.Contained) ↔ s.TerrainFits) ∧
        (s.TerrainFits → f.cursor < Binary.maxCount →
          ∃ slots, Flow.Filled (Flow.start canvasWidth margin) strips slots f ∧
            (slots.Pairwise fun above below =>
              ∀ p ∈ above.primitives, ∀ q ∈ below.primitives, p.bottom ≤ q.top) ∧
            ∀ d, render resources progress student language watermark = .ok d →
              d.primitives = slots.flatMap Slot.primitives ∧
                ∀ p ∈ d.primitives, p.bottom ≤ d.size.height) := by
  intro s
  refine ⟨fun kind name box icon hbox hicon => Subject.icon_le hicon hbox,
    Subject.stopsAt_sections watermark, fun f => ⟨Subject.stopsAt_place watermark f,
      (s.place_follows watermark).eq_addStrips f⟩, Subject.terrainFits_of_cells (s := s),
    fun strips hstrips => ?_⟩
  obtain ⟨f, hf⟩ := (Flow.start canvasWidth margin).exists_addStrips strips
  refine ⟨f, hf, fun strip => Subject.section_contained hstrips,
    Subject.sections_contained_iff hstrips, fun hfits hrange => ?_⟩
  obtain ⟨slots, hslots⟩ :=
    Flow.exists_filled hf ((Subject.sections_contained_iff hstrips).2 hfits) hrange
  refine ⟨slots, hslots, hslots.pairwise.imp fun hle p hp q hq => Slot.bottom_le_top hle hp hq,
    fun d hd => ?_⟩
  rw [render_eq_finish] at hd
  obtain ⟨strips', hstrips', hd⟩ := bind_eq_ok_iff.1 hd
  obtain rfl := Except.ok.inj (hstrips.symm.trans hstrips')
  obtain ⟨f', hf', hd⟩ := bind_eq_ok_iff.1 hd
  obtain rfl := Except.ok.inj (hf.symm.trans hf')
  have hprimitives : f.primitives = slots.flatMap Slot.primitives := hslots.primitives_eq
  rw [Flow.of_finish hd]
  refine ⟨hprimitives, fun p hp => ?_⟩
  rw [hprimitives] at hp
  obtain ⟨slot, hslot, hp⟩ := List.mem_flatMap.1 hp
  have hbottom := (slot.inside p hp).2
  have hbetween := (hslots.between hslot).2
  simp only [Flow.canvasSize]
  omega

/-- A measure, and nothing else that a card is drawn from. -/
def bare (measure : TextMeasure) : Resources :=
  ⟨measure, fun _ _ => none, fun _ => none, Catalog.ofRecords [], ⟨[], [], [], [], []⟩, ⟨[]⟩⟩

/-- Resources set in cells, with pictures of one size, two gifts and a hat. -/
def stocked : Resources :=
  ⟨CellText.measure, fun _ name => some ⟨.file [name], ⟨120, 80⟩⟩, fun _ => none, .ofRecords [],
    .ofRows [{ id := 1, category := ItemTables.giftCategory, tags := ["A"] },
      { id := 2, category := ItemTables.giftCategory, tags := ["B", "A"] }] []
      [{ id := 3, category := "Hat", tier := 9, name := "Beret" }], ⟨[]⟩⟩

/-- A student with skills, a weapon, equipment, gifts and furniture. -/
def equipped : Student :=
  { name := "Aru", squadType := "Main", cover := true, weaponType := "SR", weaponImage := "Wine",
    weapon := some { name := "Wine-Red Admire" }, equipment := ["Hat", "Bag"], giftTags := ["A"],
    furniture := [7, 5, 7, 9],
    skills := [⟨.ex, "Shot", "Deals <?1> damage.", [["100%", "200%"]], [3, 2], "EX"⟩,
      ⟨.attack, "Attack", "", [], [], ""⟩,
      ⟨.passive, "Aim", "Raises accuracy.", [], [], "PASSIVE"⟩] }

/-- The card of this student, set in cells, with a watermark. -/
theorem sections_clear_of_cells :
    (subjectOf stocked {} equipped .en).TerrainFits ∧
      ∃ d, render stocked {} equipped .en (some "mark") = .ok d ∧
        d.size = ⟨720, 2001⟩ ∧ d.primitives.length = 113 ∧
        ∀ p ∈ d.primitives, p.bottom ≤ d.size.height := by
  have hdrawn : (render stocked {} equipped .en (some "mark")).toOption.map
      (fun d => (d.size, d.primitives.length)) = some (⟨720, 2001⟩, 113) := by decide +kernel
  obtain ⟨d, hrender, hd⟩ := exists_ok_of_toOption hdrawn
  obtain ⟨hsize, hlength⟩ := Prod.mk.inj hd
  obtain ⟨-, -, -, hcells, hall⟩ := sections_clear_iff stocked {} equipped .en (some "mark")
  have hfits := hcells rfl
  obtain ⟨strips, hstrips, hflow⟩ := bind_eq_ok_iff.1 ((render_eq_finish ..).symm.trans hrender)
  obtain ⟨f, hf, hfinish⟩ := bind_eq_ok_iff.1 hflow
  obtain ⟨f', hf', -, -, hclear⟩ := hall strips hstrips
  obtain rfl := Except.ok.inj (hf.symm.trans hf')
  have hcursor : f.cursor ≤ 2001 := by
    have hheight := congrArg Size.height hsize
    rw [Flow.of_finish hfinish] at hheight
    simp only [Flow.canvasSize] at hheight
    omega
  have hrange : f.cursor < Binary.maxCount := Nat.lt_of_le_of_lt hcursor (by decide)
  obtain ⟨slots, -, -, hdrawing⟩ := hclear hfits hrange
  exact ⟨hfits, d, hrender, hsize, hlength, (hdrawing d hrender).2⟩

/-- A measure that makes every text eighty pixels high lets the labels of the terrains run out
of their section. -/
theorem sections_overlap :
    ∃ strips, (subjectOf (bare fun _ => .ok ⟨1, 80⟩) {} {} .en).sections none = .ok strips ∧
      ∃ strip ∈ strips, ∃ p ∈ strip.primitives, strip.height < p.bottom := by
  let s := subjectOf (bare fun _ => .ok ⟨1, 80⟩) {} {} .en
  have hunfit : ¬ s.TerrainFits := fun hfits =>
    absurd (hfits "Street" List.mem_cons_self ⟨s.terrainLabel "Street", ⟨1, 80⟩⟩ rfl) (by decide)
  cases hstrips : (subjectOf (bare fun _ => .ok ⟨1, 80⟩) {} {} .en).sections none with
  | error e =>
    obtain ⟨r, hr⟩ := Subject.stopsAt_sections none e hstrips
    cases hr
  | ok strips =>
    have hpasses := mt (Subject.sections_contained_iff hstrips).1 hunfit
    simp only [Strip.Contained, not_forall, Nat.not_le] at hpasses
    obtain ⟨strip, hstrip, p, hp, hbottom⟩ := hpasses
    exact ⟨strips, rfl, strip, hstrip, p, hp, hbottom⟩

end Card
end DialogueSheet
