/-
# What the plan of the pictures covers

The paths of two assets are the same only when their kinds and names are
(`assetPath_injective`).  A plan keeps the first of several downloads for one path
(`mem_freshTargets_iff`), so the plan of the pictures has exactly one download for every picture
of an accepted name (`plannedOnce_iff`).  The pictures that cards and chats ask for are among them
(`picturePlan_covers`), but for equipment, items and furniture that are not listed.
-/
import DialogueSheet.Proofs.Catalog.Search
import DialogueSheet.Proofs.Layout.Asking
import DialogueSheet.Proofs.Sync.Targets

namespace DialogueSheet

/-! ### Paths of assets -/

theorem directory_injective : Function.Injective AssetKind.directory := by
  intro kind kind' h
  cases kind <;> cases kind' <;> first | rfl | exact absurd h (by decide)

namespace AssetRoot

variable {root : AssetRoot} {kind kind' : AssetKind} {name name' target : String}

theorem assetPath_eq_ok_iff : root.assetPath kind name = .ok target ↔
    nameFault? name = none ∧ target = under root.path [kind.directory, name ++ ".png"] := by
  unfold assetPath
  cases hname : nameFault? name with
  | some fault => simp
  | none => simp [under, directory, eq_comm]

/-- **Two assets of one path are the same.** -/
theorem assetPath_injective (h : root.assetPath kind name = .ok target)
    (h' : root.assetPath kind' name' = .ok target) : kind = kind' ∧ name = name' := by
  have hplain : ∀ {kind : AssetKind} {name : String}, nameFault? name = none →
      ∀ n ∈ [kind.directory, name ++ ".png"], IsPlain n := by
    intro kind name hname n hn
    simp only [List.mem_cons, List.not_mem_nil, or_false] at hn
    rcases hn with rfl | rfl
    · exact Sync.isPlain_directory kind
    · exact Sync.isPlain_png hname
  obtain ⟨hname, rfl⟩ := assetPath_eq_ok_iff.1 h
  obtain ⟨hname', htarget⟩ := assetPath_eq_ok_iff.1 h'
  have hparts := congrArg Files.pathParts htarget
  rw [Files.pathParts_under (by simp) (hplain hname),
    Files.pathParts_under (by simp) (hplain hname')] at hparts
  have hnames := List.append_cancel_left hparts
  simp only [List.cons.injEq, and_true] at hnames
  exact ⟨directory_injective hnames.1, String.append_left_inj _ |>.1 hnames.2⟩

end AssetRoot

/-- Digits make a name that can become an asset. -/
theorem nameFault?_of_digits {name : String} (hne : name.toList ≠ [])
    (h : ∀ c ∈ name.toList, c.isDigit = true) : nameFault? name = none := by
  have habsent : ∀ c : Char, c.isDigit = false → c ∉ name.toList := by
    intro c hc hmem
    rw [h c hmem] at hc
    cases hc
  have hblank : Text.allBlank name = false := by
    obtain ⟨c, hc⟩ := List.exists_mem_of_ne_nil _ hne
    refine List.all_eq_false.2 ⟨c, hc, ?_⟩
    have hdigit : 48 ≤ c.toNat ∧ c.toNat ≤ 57 := by
      simpa [Char.isDigit, UInt32.le_iff_toNat_le] using h c hc
    simp only [Text.isBlank, Bool.or_eq_true, Bool.and_eq_true, decide_eq_true_eq, beq_iff_eq]
    omega
  have hdots : Text.occursIn ['.', '.'] name.toList = false := by
    rw [← Bool.not_eq_true, Text.occursIn_iff]
    exact fun hdots => habsent '.' (by decide) (hdots.subset List.mem_cons_self)
  simp [nameFault?, hblank, hdots, habsent '/' (by decide), habsent '\\' (by decide),
    habsent '\x00' (by decide)]

theorem toString_injective : Function.Injective (toString : Nat → String) := by
  intro m n h
  have hdigits : Nat.toDigits 10 m = Nat.toDigits 10 n := by
    rw [← Nat.toList_repr, ← Nat.toList_repr]
    exact congrArg String.toList h
  rw [← Nat.ofDigitChars_ten_toDigits (n := m), hdigits, Nat.ofDigitChars_ten_toDigits]

theorem nameFault?_toString (n : Nat) : nameFault? (toString n) = none := by
  refine nameFault?_of_digits ?_ fun c hc => ?_
  · exact Nat.toList_repr ▸ Nat.toDigits_ne_nil
  · exact Nat.isDigit_of_mem_toDigits (by decide) (by decide) (Nat.toList_repr ▸ hc)

namespace Sync

/-! ### The first of several downloads -/

/-- **The first download of every target is kept**, unless the target is taken. -/
theorem mem_freshTargets_iff {taken : List String} {downloads : List Download} {d : Download} :
    d ∈ freshTargets taken downloads ↔ d.target ∉ taken ∧
      ∃ before after, downloads = before ++ d :: after ∧ ∀ e ∈ before, e.target ≠ d.target := by
  induction downloads generalizing taken with
  | nil => simp [freshTargets]
  | cons x rest ih =>
    rw [freshTargets]
    by_cases hx : x.target ∈ taken
    · rw [if_pos (by simpa using hx), ih]
      constructor
      · rintro ⟨hfresh, before, after, rfl, hbefore⟩
        have hne : x.target ≠ d.target := fun heq => hfresh (heq ▸ hx)
        exact ⟨hfresh, x :: before, after, rfl, List.forall_mem_cons.2 ⟨hne, hbefore⟩⟩
      · rintro ⟨hfresh, before, after, hsplit, hbefore⟩
        cases before with
        | nil =>
          obtain ⟨rfl, -⟩ := List.cons.inj hsplit
          exact absurd hx hfresh
        | cons y before =>
          obtain ⟨rfl, rfl⟩ := List.cons.inj hsplit
          exact ⟨hfresh, before, after, rfl, fun e he => hbefore e (List.mem_cons_of_mem _ he)⟩
    · rw [if_neg (by simpa using hx), List.mem_cons, ih]
      constructor
      · rintro (rfl | ⟨hfresh, before, after, rfl, hbefore⟩)
        · exact ⟨hx, [], rest, rfl, by simp⟩
        · obtain ⟨hne, hfresh⟩ := List.ne_and_not_mem_of_not_mem_cons hfresh
          exact ⟨hfresh, x :: before, after, rfl, List.forall_mem_cons.2 ⟨hne.symm, hbefore⟩⟩
      · rintro ⟨hfresh, before, after, hsplit, hbefore⟩
        cases before with
        | nil =>
          obtain ⟨rfl, -⟩ := List.cons.inj hsplit
          exact .inl rfl
        | cons y before =>
          obtain ⟨rfl, rfl⟩ := List.cons.inj hsplit
          obtain ⟨hne, hbefore⟩ := List.forall_mem_cons.1 hbefore
          have hfresh := List.not_mem_cons_of_ne_of_not_mem hne.symm hfresh
          exact .inr ⟨hfresh, before, after, rfl, hbefore⟩

/-! ### The pictures that are planned -/

section Plan

variable {root : AssetRoot} {students : List Student} {items : List Item}
  {furniture : List Furniture} {force : Bool} {d : Download}

theorem pictureDownload?_eq_some_iff {p : RemotePicture} :
    pictureDownload? root force p = some d ↔
      root.assetPath p.kind p.name = .ok d.target ∧
        d = ⟨urlOf p.path, d.target, true, force⟩ := by
  unfold pictureDownload?
  cases root.assetPath p.kind p.name with
  | error fault => simp
  | ok target =>
    constructor
    · intro h
      obtain rfl := Option.some.inj h
      exact ⟨rfl, rfl⟩
    · rintro ⟨htarget, hd⟩
      rw [hd, Except.ok.inj htarget]

/-- **The downloads are those of the first pictures for their paths.** -/
theorem mem_picturePlan_iff : d ∈ picturePlan root students items furniture force ↔
    ∃ before p after, pictures students items furniture = before ++ p :: after ∧
      pictureDownload? root force p = some d ∧
      ∀ q ∈ before, root.assetPath q.kind q.name ≠ .ok d.target := by
  rw [picturePlan, mem_freshTargets_iff]
  constructor
  · rintro ⟨-, before, after, hsplit, hbefore⟩
    obtain ⟨first, second, hpictures, rfl, hsecond⟩ := List.filterMap_eq_append_iff.1 hsplit
    obtain ⟨refused, p, rest, rfl, hrefused, hp, -⟩ := List.filterMap_eq_cons_iff.1 hsecond
    refine ⟨first ++ refused, p, rest, by simp [hpictures], hp, fun q hq htarget => ?_⟩
    have hsome : pictureDownload? root force q = some ⟨urlOf q.path, d.target, true, force⟩ :=
      pictureDownload?_eq_some_iff.2 ⟨htarget, rfl⟩
    rcases List.mem_append.1 hq with hq | hq
    · exact hbefore _ (List.mem_filterMap.2 ⟨q, hq, hsome⟩) rfl
    · rw [hrefused q hq] at hsome
      cases hsome
  · rintro ⟨before, p, after, hsplit, hp, hbefore⟩
    refine ⟨List.not_mem_nil, before.filterMap (pictureDownload? root force),
      after.filterMap (pictureDownload? root force), ?_, fun e he heq => ?_⟩
    · rw [hsplit, List.filterMap_append, List.filterMap_cons_some hp]
    · obtain ⟨q, hq, hqe⟩ := List.mem_filterMap.1 he
      exact hbefore q hq (heq ▸ (pictureDownload?_eq_some_iff.1 hqe).1)

end Plan

/-- An asset of an accepted name is the target of exactly one of the downloads. -/
def PlannedOnce (root : AssetRoot) (plan : List Download) (kind : AssetKind) (name : String) :
    Prop :=
  ∃ target, root.assetPath kind name = .ok target ∧ (plan.map Download.target).count target = 1

theorem PlannedOnce.exists_mem {root : AssetRoot} {plan : List Download} {kind : AssetKind}
    {name : String} (h : PlannedOnce root plan kind name) :
    ∃ d ∈ plan, root.assetPath kind name = .ok d.target := by
  obtain ⟨target, htarget, hcount⟩ := h
  have hmem : target ∈ plan.map Download.target := List.count_pos_iff.1 (by omega)
  obtain ⟨d, hd, rfl⟩ := List.mem_map.1 hmem
  exact ⟨d, hd, htarget⟩

/-- **The plan has one download for every picture of an accepted name, and no others.** -/
theorem plannedOnce_iff {root : AssetRoot} {students : List Student} {items : List Item}
    {furniture : List Furniture} {force : Bool} {kind : AssetKind} {name : String} :
    PlannedOnce root (picturePlan root students items furniture force) kind name ↔
      nameFault? name = none ∧
        ∃ p ∈ pictures students items furniture, p.kind = kind ∧ p.name = name := by
  constructor
  · intro h
    obtain ⟨d, hd, htarget⟩ := h.exists_mem
    obtain ⟨before, p, after, hsplit, hp, -⟩ := mem_picturePlan_iff.1 hd
    refine ⟨(AssetRoot.assetPath_eq_ok_iff.1 htarget).1, p, by simp [hsplit], ?_⟩
    exact AssetRoot.assetPath_injective (pictureDownload?_eq_some_iff.1 hp).1 htarget
  · rintro ⟨hname, p, hp, rfl, rfl⟩
    obtain ⟨target, htarget⟩ : ∃ target, root.assetPath p.kind p.name = .ok target :=
      ⟨_, AssetRoot.assetPath_eq_ok_iff.2 ⟨hname, rfl⟩⟩
    refine ⟨target, htarget, List.count_eq_one_of_mem (nodup_targets_picturePlan ..) ?_⟩
    -- the first picture with this path is the one that is downloaded
    let d : RemotePicture → Download := fun q => ⟨urlOf q.path, target, true, force⟩
    have hfirst : ∃ q ∈ pictures students items furniture,
        pictureDownload? root force q = some (d q) :=
      ⟨p, hp, pictureDownload?_eq_some_iff.2 ⟨htarget, rfl⟩⟩
    obtain ⟨before, q, after, hsplit, hbefore, hq⟩ := exists_first hfirst
    refine List.mem_map.2 ⟨d q, mem_picturePlan_iff.2 ⟨before, q, after, hsplit, hq, ?_⟩, rfl⟩
    exact fun q' hq' heq => hbefore q' hq' (pictureDownload?_eq_some_iff.2 ⟨heq, rfl⟩)

end Sync

/-! ### The pictures of files -/

theorem Cache.load_empty (K : Codec) (files : Files) (path : String) :
    (Cache.empty.load (files.picture? K) path).2 = files.picture? K path := by
  simp [load, empty, answer?, publish, Call.start, Call.step, Call.answer?]

theorem Resources.picture?_ofTables (K : Codec) (files : Files) (root : AssetRoot)
    (catalog : Catalog) (items : ItemTables) (localization : Localization) (kind : AssetKind)
    (name : String) :
    (ofTables K files root catalog items localization).picture? kind name =
      match root.assetPath kind name with
      | .ok path => files.picture? K path
      | .error _ => none := by
  unfold ofTables Cache.get
  dsimp only
  cases root.assetPath kind name with
  | ok path => exact Cache.load_empty K files path
  | error fault => rfl

theorem Resources.withPicturesOf_ofTables (K : Codec) (files later : Files)
    (root : AssetRoot) (catalog : Catalog) (items : ItemTables) (localization : Localization) :
    (ofTables K files root catalog items localization).withPicturesOf
      (ofTables K later root catalog items localization) =
        ofTables K later root catalog items localization := rfl

namespace Sync

/-- The kinds of which a card may ask for a picture that no record lists: the icons of equipment
are a fixed list, and gifts and furniture may be missing among the items and the furniture. -/
def unlistedKinds : List AssetKind := [.equipment, .item, .furniture]

/-- Files with the same pictures at the targets of a plan, and the same ones of the kinds that
need not be listed. -/
structure SamePictures (K : Codec) (root : AssetRoot) (plan : List Download)
    (files later : Files) : Prop where
  planned : ∀ d ∈ plan, later.picture? K d.target = files.picture? K d.target
  unlisted : ∀ kind ∈ unlistedKinds, ∀ name path, root.assetPath kind name = .ok path →
    later.picture? K path = files.picture? K path

/-- What the plan of the pictures is to the records that it is made from. -/
structure Covers (root : AssetRoot) (students : List Student) (items : List Item)
    (furniture : List Furniture) (force : Bool) (plan : List Download) : Prop where
  distinct : (plan.map Download.target).Nodup
  kept : ∀ d ∈ plan, ∃ kind : AssetKind, ∃ name, nameFault? name = none ∧
    d.target = joinPath (joinPath root.path kind.directory) (name ++ ".png")
  /-- A download is that of the first picture for its path. -/
  first : ∀ d ∈ plan, ∃ before p after, pictures students items furniture = before ++ p :: after ∧
    root.assetPath p.kind p.name = .ok d.target ∧ d = ⟨urlOf p.path, d.target, true, force⟩ ∧
    ∀ q ∈ before, root.assetPath q.kind q.name ≠ .ok d.target
  icons : ∀ s ∈ students, nameFault? s.pathName = none → PlannedOnce root plan .icon s.pathName
  portraits : ∀ s ∈ students, nameFault? s.devName = none →
    PlannedOnce root plan .portrait s.devName
  schools : ∀ s ∈ students, nameFault? s.school = none → PlannedOnce root plan .school s.school
  weapons : ∀ s ∈ students, nameFault? s.weaponImage = none →
    PlannedOnce root plan .weapon s.weaponImage
  skills : ∀ s ∈ students, ∀ skill ∈ s.skills, nameFault? skill.icon = none →
    PlannedOnce root plan .skill skill.icon
  stats : ∀ key ∈ StatKey.card, PlannedOnce root plan .stat key.name
  cover : PlannedOnce root plan .ui "Cover"
  terrains : ∀ name ∈ Card.Subject.terrains, PlannedOnce root plan .ui name
  grades : ∀ grade, PlannedOnce root plan .ui
    ("Adapt_" ++ toString (min grade Card.Subject.maxGrade))
  itemIcons : ∀ i ∈ items, i.icon ≠ "" → PlannedOnce root plan .item (toString i.id)
  furnitureIcons : ∀ f ∈ furniture, f.icon ≠ "" →
    PlannedOnce root plan .furniture (toString f.id)
  /-- A card of one of the students needs no other picture. -/
  cards : ∀ (K : Codec) (files later : Files), SamePictures K root plan files later →
    ∀ (catalog : Catalog) (tables : ItemTables) (localization : Localization)
      (progress : Card.Progress) (student : Student) (language : Language)
      (watermark : Option String),
      (catalog.findById? student.id language).getD student ∈ students →
      Card.render (.ofTables K later root catalog tables localization) progress student language
          watermark =
        Card.render (.ofTables K files root catalog tables localization) progress student language
          watermark
  /-- A chat of the students needs no other picture. -/
  chats : ∀ (K : Codec) (files later : Files), SamePictures K root plan files later →
    ∀ (catalog : Catalog) (tables : ItemTables) (localization : Localization)
      (config : ChatConfig) (given : List Student) (contents : List FileContent)
      (blocks : List Block) (watermark : Option String),
      (∀ who lines, .speaker who lines ∈ blocks → ∀ s, catalog.resolveAmong who given = some s →
        s ∈ students ∧ ∀ path, s.icon = some path → later.picture? K path = files.picture? K path) →
      Chat.render K (.ofTables K later root catalog tables localization) config given contents
          blocks watermark =
        Chat.render K (.ofTables K files root catalog tables localization) config given contents
          blocks watermark

/-! ### What is planned -/

section Planned

variable {root : AssetRoot} {students : List Student} {items : List Item}
  {furniture : List Furniture} {force : Bool}

theorem plannedOnce_of_mem {path : String} {kind : AssetKind} {name : String}
    (hp : ⟨path, kind, name⟩ ∈ pictures students items furniture)
    (hname : nameFault? name = none) :
    PlannedOnce root (picturePlan root students items furniture force) kind name :=
  plannedOnce_iff.2 ⟨hname, _, hp, rfl, rfl⟩

theorem plannedOnce_of_student {s : Student} (hs : s ∈ students) {path : String}
    {kind : AssetKind} {name : String} (hp : ⟨path, kind, name⟩ ∈ studentPictures s)
    (hname : nameFault? name = none) :
    PlannedOnce root (picturePlan root students items furniture force) kind name := by
  have hmem : ⟨path, kind, name⟩ ∈ pictures students items furniture := by
    simp only [pictures, List.mem_append]
    exact .inl (.inl (.inl (.inl (.inl (List.mem_flatMap.2 ⟨s, hs, hp⟩)))))
  exact plannedOnce_of_mem hmem hname

theorem ne_empty_of_nameFault? {name : String} (h : nameFault? name = none) : name ≠ "" := by
  rintro rfl
  exact absurd h (by decide)

theorem plannedOnce_icon {s : Student} (hs : s ∈ students) (hname : nameFault? s.pathName = none) :
    PlannedOnce root (picturePlan root students items furniture force) .icon s.pathName := by
  have hp : ⟨"images/student/icon/" ++ toString s.id ++ ".webp", .icon, s.pathName⟩ ∈
      studentPictures s := by
    simp [studentPictures]
  exact plannedOnce_of_student hs hp hname

theorem plannedOnce_portrait {s : Student} (hs : s ∈ students)
    (hname : nameFault? s.devName = none) :
    PlannedOnce root (picturePlan root students items furniture force) .portrait s.devName := by
  have hp : ⟨"images/student/portrait/" ++ toString s.id ++ ".webp", .portrait, s.devName⟩ ∈
      studentPictures s := by
    simp [studentPictures]
  exact plannedOnce_of_student hs hp hname

theorem plannedOnce_school {s : Student} (hs : s ∈ students)
    (hname : nameFault? s.school = none) :
    PlannedOnce root (picturePlan root students items furniture force) .school s.school := by
  have hp : ⟨"images/schoolicon/School_Icon_" ++ Text.upperText s.school ++ "_W.png", .school,
      s.school⟩ ∈ studentPictures s := by
    simp [studentPictures, ne_empty_of_nameFault? hname]
  exact plannedOnce_of_student hs hp hname

theorem plannedOnce_weapon {s : Student} (hs : s ∈ students)
    (hname : nameFault? s.weaponImage = none) :
    PlannedOnce root (picturePlan root students items furniture force) .weapon s.weaponImage := by
  have hp : ⟨"images/weapon/" ++ s.weaponImage ++ ".webp", .weapon, s.weaponImage⟩ ∈
      studentPictures s := by
    simp [studentPictures, ne_empty_of_nameFault? hname]
  exact plannedOnce_of_student hs hp hname

theorem plannedOnce_skill {s : Student} (hs : s ∈ students) {skill : Skill}
    (hskill : skill ∈ s.skills) (hname : nameFault? skill.icon = none) :
    PlannedOnce root (picturePlan root students items furniture force) .skill skill.icon := by
  have hp : ⟨"images/skill/" ++ skill.icon ++ ".webp", .skill, skill.icon⟩ ∈
      studentPictures s := by
    simp only [studentPictures, List.mem_append, List.mem_map, List.mem_filter]
    exact .inr ⟨skill, ⟨hskill, by simp [ne_empty_of_nameFault? hname]⟩, rfl⟩
  exact plannedOnce_of_student hs hp hname

theorem plannedOnce_stat {key : StatKey} (hkey : key ∈ StatKey.card) :
    PlannedOnce root (picturePlan root students items furniture force) .stat key.name := by
  have hp : statPicture key ∈ pictures students items furniture := by
    simp only [pictures, List.mem_append]
    exact .inl (.inl (.inl (.inr (List.mem_map_of_mem hkey))))
  exact plannedOnce_of_mem hp (by cases key <;> decide +kernel)

theorem plannedOnce_interface {name : String} (hname : name ∈ interfaceIcons.map Prod.fst) :
    PlannedOnce root (picturePlan root students items furniture force) .ui name := by
  have haccepted : ∀ name ∈ interfaceIcons.map Prod.fst, nameFault? name = none := by
    decide +kernel
  obtain ⟨⟨name, icon⟩, hicon, rfl⟩ := List.mem_map.1 hname
  have hp : ⟨"images/ui/" ++ icon ++ ".png", .ui, name⟩ ∈ pictures students items furniture := by
    simp only [pictures, interfacePictures, List.mem_append]
    exact .inr (.inl (List.mem_map.2 ⟨_, hicon, rfl⟩))
  exact plannedOnce_of_mem hp (haccepted _ hname)

theorem plannedOnce_grade (grade : Nat) :
    PlannedOnce root (picturePlan root students items furniture force) .ui
      ("Adapt_" ++ toString (min grade Card.Subject.maxGrade)) := by
  have hgrades : ∀ n < 6, "Adapt_" ++ toString n ∈ interfaceIcons.map Prod.fst := by
    decide +kernel
  refine plannedOnce_interface (hgrades _ ?_)
  have hle := Nat.min_le_right grade Card.Subject.maxGrade
  have hmax : Card.Subject.maxGrade = 5 := rfl
  omega

theorem terrains_subset : Card.Subject.terrains ⊆ interfaceIcons.map Prod.fst := by
  decide +kernel

theorem cover_mem : "Cover" ∈ interfaceIcons.map Prod.fst := by decide +kernel

theorem plannedOnce_item {i : Item} (hi : i ∈ items) (hicon : i.icon ≠ "") :
    PlannedOnce root (picturePlan root students items furniture force) .item (toString i.id) := by
  have hp : itemPicture i ∈ pictures students items furniture := by
    simp only [pictures, List.mem_append]
    exact .inl (.inl (.inr (List.mem_map_of_mem (List.mem_filter.2 ⟨hi, by simpa using hicon⟩))))
  exact plannedOnce_of_mem hp (nameFault?_toString i.id)

theorem plannedOnce_furniture {f : Furniture} (hf : f ∈ furniture) (hicon : f.icon ≠ "") :
    PlannedOnce root (picturePlan root students items furniture force) .furniture
      (toString f.id) := by
  have hp : furniturePicture f ∈ pictures students items furniture := by
    simp only [pictures, List.mem_append]
    exact .inl (.inr (List.mem_map_of_mem (List.mem_filter.2 ⟨hf, by simpa using hicon⟩)))
  exact plannedOnce_of_mem hp (nameFault?_toString f.id)

/-- **What a card asks for is planned**, if its name is accepted and its kind is listed. -/
theorem plannedOnce_of_asks {s : Card.Subject} (hs : s.student ∈ students) {kind : AssetKind}
    {name : String} (hasks : s.Asks kind name) (hkind : kind ∉ unlistedKinds)
    (hname : nameFault? name = none) :
    PlannedOnce root (picturePlan root students items furniture force) kind name := by
  cases hasks with
  | portrait => exact plannedOnce_portrait hs hname
  | school => exact plannedOnce_school hs hname
  | cover => exact plannedOnce_interface cover_mem
  | weapon => exact plannedOnce_weapon hs hname
  | terrain hterrain => exact plannedOnce_interface (terrains_subset hterrain)
  | grade => exact plannedOnce_grade _
  | stat hkey => exact plannedOnce_stat hkey
  | skill hskill => exact plannedOnce_skill hs hskill hname
  | equipment => exact absurd (by decide) hkind
  | gift => exact absurd (by decide) hkind
  | furniture => exact absurd (by decide) hkind

end Planned

/-! ### Sheets with the planned pictures -/

section Sheets

variable {K : Codec} {root : AssetRoot} {plan : List Download} {files later : Files}
  {catalog : Catalog} {tables : ItemTables} {localization : Localization}

/-- A picture is the same if it is planned, or of a kind that need not be listed, or if its name
is refused. -/
theorem SamePictures.picture?_eq (h : SamePictures K root plan files later) {kind : AssetKind}
    {name : String} (hplanned : kind ∉ unlistedKinds → nameFault? name = none →
      PlannedOnce root plan kind name) :
    (Resources.ofTables K later root catalog tables localization).picture? kind name =
      (Resources.ofTables K files root catalog tables localization).picture? kind name := by
  rw [Resources.picture?_ofTables, Resources.picture?_ofTables]
  cases hpath : root.assetPath kind name with
  | error fault => rfl
  | ok path =>
    by_cases hkind : kind ∈ unlistedKinds
    · exact h.unlisted kind hkind name path hpath
    · have hname := (AssetRoot.assetPath_eq_ok_iff.1 hpath).1
      obtain ⟨d, hd, htarget⟩ := (hplanned hkind hname).exists_mem
      obtain rfl := Except.ok.inj (hpath.symm.trans htarget)
      exact h.planned d hd

variable {students : List Student} {items : List Item} {furniture : List Furniture}
  {force : Bool}
  (h : SamePictures K root (picturePlan root students items furniture force) files later)
include h

theorem SamePictures.card_eq {progress : Card.Progress} {student : Student} {language : Language}
    (hshown : (catalog.findById? student.id language).getD student ∈ students)
    (watermark : Option String) :
    Card.render (.ofTables K later root catalog tables localization) progress student language
        watermark =
      Card.render (.ofTables K files root catalog tables localization) progress student language
        watermark := by
  rw [← Resources.withPicturesOf_ofTables K files later]
  exact Card.render_congr (fun _ _ hasks => h.picture?_eq (plannedOnce_of_asks hshown hasks))
    watermark

theorem SamePictures.chat_eq {config : ChatConfig} {given : List Student}
    {contents : List FileContent} {blocks : List Block}
    (hspeakers : ∀ who lines, .speaker who lines ∈ blocks → ∀ s,
      catalog.resolveAmong who given = some s →
        s ∈ students ∧ ∀ path, s.icon = some path → later.picture? K path = files.picture? K path)
    (watermark : Option String) :
    Chat.render K (.ofTables K later root catalog tables localization) config given contents blocks
        watermark =
      Chat.render K (.ofTables K files root catalog tables localization) config given contents
        blocks watermark := by
  rw [← Resources.withPicturesOf_ofTables K files later]
  refine Chat.render_congr (fun images who lines hmem s hresolved => ?_) watermark
  obtain ⟨hs, hfile⟩ := hspeakers who lines hmem s hresolved
  refine ⟨fun path hpath => ?_, fun _ _ => ?_⟩
  · exact (Cache.load_empty K later path).trans
      ((hfile path hpath).trans (Cache.load_empty K files path).symm)
  · exact h.picture?_eq fun _ hname => plannedOnce_icon hs hname

end Sheets

/-- **The plan of the pictures covers what cards and chats ask for.** -/
theorem picturePlan_covers (root : AssetRoot) (students : List Student) (items : List Item)
    (furniture : List Furniture) (force : Bool) :
    Covers root students items furniture force
      (picturePlan root students items furniture force) where
  distinct := nodup_targets_picturePlan root students items furniture force
  kept d hd := by
    obtain ⟨before, p, after, -, hp, -⟩ := mem_picturePlan_iff.1 hd
    obtain ⟨hname, htarget⟩ :=
      AssetRoot.assetPath_eq_ok_iff.1 (pictureDownload?_eq_some_iff.1 hp).1
    exact ⟨p.kind, p.name, hname, htarget⟩
  first d hd := by
    obtain ⟨before, p, after, hsplit, hp, hbefore⟩ := mem_picturePlan_iff.1 hd
    obtain ⟨htarget, hd⟩ := pictureDownload?_eq_some_iff.1 hp
    exact ⟨before, p, after, hsplit, htarget, hd, hbefore⟩
  icons s hs := plannedOnce_icon hs
  portraits s hs := plannedOnce_portrait hs
  schools s hs := plannedOnce_school hs
  weapons s hs := plannedOnce_weapon hs
  skills s hs skill hskill := plannedOnce_skill hs hskill
  stats key hkey := plannedOnce_stat hkey
  cover := plannedOnce_interface cover_mem
  terrains name hname := plannedOnce_interface (terrains_subset hname)
  grades grade := plannedOnce_grade grade
  itemIcons i hi hicon := plannedOnce_item hi hicon
  furnitureIcons f hf hicon := plannedOnce_furniture hf hicon
  cards _ files later h catalog tables localization progress student language watermark hshown :=
    h.card_eq hshown watermark
  chats _ files later h catalog tables localization config given contents blocks watermark
      hspeakers :=
    h.chat_eq hspeakers watermark

end Sync
end DialogueSheet
