/-
# The pictures that sheets ask for

Of the assets a card reads nothing but the pictures that it asks for (`Card.Subject.Asks`): those
of its student, those of the gifts and the furniture, and the fixed ones of the terrains and the
stats.  A chat reads the avatars of its speakers (`Resources.SameAvatar`).  Other resources
with the same pictures there give the same card (`Card.render_congr`) and the same chat
(`Chat.render_congr`).  Every section of a card is shown to be the same on its own, by what it
asks for.
-/
import DialogueSheet.Proofs.Card.Strips
import DialogueSheet.Proofs.Chat.Strips
import Mathlib.Data.List.Zip

namespace DialogueSheet

/-- The same tables and measure with the pictures of other resources. -/
def Resources.withPicturesOf (r other : Resources) : Resources :=
  { r with picture? := other.picture?, pictureAt? := other.pictureAt? }

theorem mapM_congr {ε α β : Type} {f g : α → Except ε β} {l : List α} (h : ∀ a ∈ l, f a = g a) :
    l.mapM f = l.mapM g := by
  induction l with
  | nil => rfl
  | cons a rest ih =>
    obtain ⟨ha, hrest⟩ := List.forall_mem_cons.1 h
    rw [List.mapM_cons, List.mapM_cons, ha, ih hrest]

/-! ### Cards -/

namespace Card

namespace Subject

/-- A card asks for the picture of a kind and a name. -/
inductive Asks (s : Subject) : AssetKind → String → Prop where
  | portrait : Asks s .portrait s.student.devName
  | school : Asks s .school s.student.school
  | cover (h : s.student.cover = true) : Asks s .ui "Cover"
  | weapon : Asks s .weapon s.student.weaponImage
  | equipment {category : String} (h : category ∈ s.student.equipment) :
    Asks s .equipment category
  | gift {item : Item} (h : item ∈ s.resources.items.favorsByTags s.student.favorTags) :
    Asks s .item (toString item.id)
  | furniture {id : Nat} (h : id ∈ s.student.furniture) : Asks s .furniture (toString id)
  | terrain {name : String} (h : name ∈ terrains) : Asks s .ui name
  | grade {grade : Nat} (h : grade ∈ s.student.adaptations) :
    Asks s .ui ("Adapt_" ++ toString (min grade maxGrade))
  | stat {key : StatKey} (h : key ∈ StatKey.card) : Asks s .stat key.name
  | skill {skill : Skill} (h : skill ∈ s.student.skills) (hkind : skill.kind ≠ .attack) :
    Asks s .skill skill.icon

/-- The same subject with the pictures of other resources. -/
def withPicturesOf (s : Subject) (other : Resources) : Subject :=
  { s with resources := s.resources.withPicturesOf other }

variable {s : Subject} {other : Resources}

section Sections

variable (h : ∀ kind name, s.Asks kind name →
  other.picture? kind name = s.resources.picture? kind name)
include h

theorem icon?_congr {kind : AssetKind} {name : String} (hasks : s.Asks kind name) (box : Size) :
    (s.withPicturesOf other).icon? kind name box = s.icon? kind name box :=
  congrArg (Option.map _) (h kind name hasks)

theorem portrait_congr : (s.withPicturesOf other).portrait = s.portrait := by
  rw [portrait, portrait, ← icon?_congr h .portrait]
  rfl

theorem identity_congr : (s.withPicturesOf other).identity = s.identity := by
  have hrow : ∀ name sub, (s.withPicturesOf other).identityRow name sub 0 =
      s.identityRow name sub 0 := by
    intro name sub
    rw [identityRow, identityRow, ← icon?_congr h .school]
    rfl
  simp only [identity, hrow]
  rfl

theorem tags_congr : (s.withPicturesOf other).tags = s.tags := by
  have hcover : (s.withPicturesOf other).coverIcon 0 = s.coverIcon 0 := by
    unfold coverIcon
    change (if s.student.cover then _ else _) = _
    by_cases hc : s.student.cover = true
    · rw [if_pos hc, if_pos hc, icon?_congr h (.cover hc)]
    · rw [if_neg hc, if_neg hc]
  simp only [tags, tagsRow, hcover]
  rfl

theorem arms_congr : (s.withPicturesOf other).arms = s.arms := by
  have hweapon : (s.withPicturesOf other).weaponPicture = s.weaponPicture := by
    rw [weaponPicture, weaponPicture, ← icon?_congr h .weapon]
    rfl
  have hequipment : s.student.equipment.mapM (s.withPicturesOf other).equipmentStrip =
      s.student.equipment.mapM s.equipmentStrip := by
    refine mapM_congr fun category hcategory => ?_
    have hrow : ∀ t, (s.withPicturesOf other).equipmentRow category t 0 =
        s.equipmentRow category t 0 := by
      intro t
      rw [equipmentRow, equipmentRow, icon?_congr h (.equipment hcategory)]
    simp only [equipmentStrip, hrow]
    rfl
  rw [arms, arms, weapon_eq, weapon_eq, equipment_eq, equipment_eq, hweapon, ← hequipment]
  rfl

theorem gifts_congr : (s.withPicturesOf other).gifts = s.gifts := by
  have hitems : (s.withPicturesOf other).giftIcons = s.giftIcons :=
    List.map_congr_left fun item hitem => h .item _ (.gift hitem)
  have hfurniture : (s.withPicturesOf other).furnitureIcons = s.furnitureIcons :=
    List.map_congr_left fun id hid => h .furniture _ (.furniture (List.mem_eraseDups.1 hid))
  rw [gifts, gifts, ← hitems, ← hfurniture]
  rfl

theorem terrainCell_congr {name : String} {grade : Nat} (hname : name ∈ terrains)
    (hgrade : grade ∈ s.student.adaptations) (index : Nat) :
    (s.withPicturesOf other).terrainCell name grade index 0 =
      s.terrainCell name grade index 0 := by
  unfold terrainCell
  dsimp only
  rw [icon?_congr h (.terrain hname), icon?_congr h (.grade hgrade)]
  rfl

theorem terrain_congr : (s.withPicturesOf other).terrain = s.terrain := by
  have hcells : ∀ a ∈ (terrains.zip s.student.adaptations).zipIdx,
      (s.withPicturesOf other).terrainCell a.1.1 a.1.2 a.2 0 =
        s.terrainCell a.1.1 a.1.2 a.2 0 := by
    intro a ha
    obtain ⟨hname, hgrade⟩ := List.of_mem_zip (List.fst_mem_of_mem_zipIdx ha)
    exact terrainCell_congr h hname hgrade a.2
  have hrow : (s.withPicturesOf other).terrainStrip = s.terrainStrip := by
    rw [terrainStrip, terrainStrip, ← mapM_congr hcells]
    rfl
  rw [terrain, terrain, ← hrow]
  rfl

theorem statStrip_congr {keys : List StatKey} (hkeys : ∀ key ∈ keys, key ∈ StatKey.card) :
    (s.withPicturesOf other).statStrip keys = s.statStrip keys := by
  have hcells : ∀ a ∈ keys.zipIdx,
      (s.withPicturesOf other).statCell a.1 a.2 0 = s.statCell a.1 a.2 0 := by
    intro a ha
    have hkey := hkeys a.1 (List.fst_mem_of_mem_zipIdx ha)
    rw [statCell, statCell, icon?_congr h (.stat hkey)]
    rfl
  rw [statStrip, statStrip, ← mapM_congr hcells]

theorem statTable_congr : (s.withPicturesOf other).statTable = s.statTable := by
  have hrows : (inPairs StatKey.card).mapM (s.withPicturesOf other).statStrip =
      (inPairs StatKey.card).mapM s.statStrip :=
    mapM_congr fun _ hkeys => statStrip_congr h fun _ => mem_of_mem_inPairs hkeys
  rw [statTable, statTable, ← hrows]
  rfl

theorem skills_congr : (s.withPicturesOf other).skills = s.skills := by
  have hcards : s.cardSkills.mapM (s.withPicturesOf other).skillCard =
      s.cardSkills.mapM s.skillCard := by
    refine mapM_congr fun skill hskill => ?_
    obtain ⟨hskill, hkind⟩ := List.mem_filter.1 hskill
    have hicon : (s.withPicturesOf other).skillIcon skill 0 = s.skillIcon skill 0 := by
      rw [skillIcon, skillIcon, icon?_congr h (.skill hskill (by simpa using hkind))]
    simp only [skillCard, skillRow, hicon]
    rfl
  rw [skills, skills, ← hcards]
  rfl

/-- **A card reads the pictures that it asks for and no others.** -/
theorem sections_congr (watermark : Option String) :
    (s.withPicturesOf other).sections watermark = s.sections watermark := by
  rw [sections, sections, portrait_congr h, identity_congr h, tags_congr h, arms_congr h,
    gifts_congr h, terrain_congr h, statTable_congr h, skills_congr h]
  rfl

end Sections
end Subject

/-- The same holds of the drawing, by the copy of the student that it shows. -/
theorem render_congr {r other : Resources} {progress : Progress} {student : Student}
    {language : Language}
    (h : ∀ kind name, Subject.Asks
        (subjectOf r progress student language) kind name →
      other.picture? kind name = r.picture? kind name) (watermark : Option String) :
    render (r.withPicturesOf other) progress student language watermark =
      render r progress student language watermark := by
  rw [render_eq_finish, render_eq_finish]
  exact congrArg (· >>= _) (Subject.sections_congr (s := subjectOf r progress student language) h
    watermark)

end Card

/-! ### Chats -/

/-- Other resources have the same avatar of a student. -/
structure Resources.SameAvatar (r other : Resources) (student : Student) : Prop where
  file : ∀ path, student.icon = some path → other.pictureAt? path = r.pictureAt? path
  icon : student.icon = none → student.pathName ≠ "" →
    other.picture? .icon student.pathName = r.picture? .icon student.pathName

namespace Chat
namespace Scene

/-- The same scene with the pictures of other resources. -/
def withPicturesOf (s : Scene) (other : Resources) : Scene :=
  { s with resources := s.resources.withPicturesOf other }

variable {s : Scene} {other : Resources}

theorem avatar?_congr {who : StudentRef}
    (h : ∀ student, s.resources.catalog.resolveAmong who s.given = some student →
      s.resources.SameAvatar other student) :
    (s.withPicturesOf other).avatar? who = s.avatar? who := by
  unfold avatar?
  change (s.resources.catalog.resolveAmong who s.given).bind _ = _
  cases hresolved : s.resources.catalog.resolveAmong who s.given with
  | none => rfl
  | some student =>
    obtain ⟨hfile, hicon⟩ := h student hresolved
    cases hnamed : student.icon with
    | some path => simp [hnamed, withPicturesOf, Resources.withPicturesOf, hfile path hnamed]
    | none =>
      by_cases hempty : student.pathName = ""
      · simp [hnamed, hempty]
      · simp [hnamed, hempty, withPicturesOf, Resources.withPicturesOf, hicon hnamed hempty]

theorem block_congr {b : Block}
    (h : ∀ who lines, b = .speaker who lines → ∀ student,
      s.resources.catalog.resolveAmong who s.given = some student →
        s.resources.SameAvatar other student) :
    (s.withPicturesOf other).block b = s.block b := by
  cases b with
  | speaker who lines =>
    have hrow : ∀ name, (s.withPicturesOf other).speakerRow who name 0 =
        s.speakerRow who name 0 := by
      intro name
      rw [speakerRow, speakerRow, avatar?_congr (h who lines rfl)]
    simp only [block, speaker, hrow]
    rfl
  | counterpart lines => rfl
  | choices options => rfl
  | banner who caption => rfl

/-- The same avatars of all speakers of a chat. -/
def SameAvatars (s : Scene) (other : Resources) (blocks : List Block) : Prop :=
  ∀ who lines, .speaker who lines ∈ blocks → ∀ student,
    s.resources.catalog.resolveAmong who s.given = some student →
      s.resources.SameAvatar other student

theorem addBlocks_congr {blocks : List Block} (h : s.SameAvatars other blocks) (f : Flow) :
    (s.withPicturesOf other).addBlocks f blocks = s.addBlocks f blocks := by
  induction blocks generalizing f with
  | nil => rfl
  | cons b rest ih =>
    have hb : (s.withPicturesOf other).block b = s.block b :=
      block_congr fun who lines hspeaker => h who lines (hspeaker ▸ List.mem_cons_self)
    have hrest : s.SameAvatars other rest := fun who lines hmem =>
      h who lines (List.mem_cons_of_mem b hmem)
    rw [addBlocks, addBlocks, addBlock_eq, addBlock_eq, hb]
    exact congrArg _ (funext fun f' => ih hrest f')

theorem render_congr {blocks : List Block} (h : s.SameAvatars other blocks)
    (watermark : Option String) :
    (s.withPicturesOf other).render blocks watermark = s.render blocks watermark := by
  simp only [Scene.render, Scene.flow, addBlocks_congr h]
  rfl

end Scene

/-- **A chat reads the avatars of its speakers and no other picture.** -/
theorem render_congr {K : Codec} {r other : Resources} {config : ChatConfig} {given : List Student}
    {contents : List FileContent} {blocks : List Block}
    (h : ∀ images, Scene.SameAvatars ⟨r, config, given, images⟩ other blocks)
    (watermark : Option String) :
    render K (r.withPicturesOf other) config given contents blocks watermark =
      render K r config given contents blocks watermark :=
  congrArg _ (funext fun images => Scene.render_congr (h images) watermark)

end Chat
end DialogueSheet
