/-
# The gifts whose icons are planned

A card shows the gifts among the Japanese items, each by its Chinese row if there is one.  The
icons are planned by the Chinese rows alone (`item_planned_iff`).  So the icon of a gift is
planned exactly if a Chinese row has its id (`favors_planned_iff`), and the icon of a gift that
has not come to the Chinese table yet is never downloaded (`favor_unplanned`).  The tables are
those that a card reads after the run, since the pictures change no data file
(`itemTables_of_run`).
-/
import DialogueSheet.Proofs.Items.Favored
import DialogueSheet.Proofs.Layout.Measuring
import DialogueSheet.Proofs.Sync.Again
import DialogueSheet.Proofs.Sync.Covering

namespace DialogueSheet

/-! ### The rows of gifts -/

/-- A gift is a Chinese row if one has its id. -/
theorem ItemTables.mem_shownItems_of_id_eq {t : ItemTables} {tags : List String} {gift row : Item}
    (h : gift ∈ t.favorsByTags tags) (hrow : row ∈ t.shownItems) (hid : row.id = gift.id) :
    gift ∈ t.shownItems := by
  obtain ⟨item, -, rfl⟩ := List.mem_map.1 h
  have hshows := t.shows_shownFor item
  exact hshows.mem_of_id_eq hrow (hid.trans hshows.id_eq)

namespace Sync

/-! ### Items among the pictures -/

theorem kind_of_mem_studentPictures {s : Student} {p : RemotePicture}
    (hp : p ∈ studentPictures s) : p.kind ≠ .item := by
  simp only [studentPictures, List.mem_append, List.mem_cons, List.not_mem_nil, or_false,
    List.mem_ite_nil_left, List.mem_ite_nil_right, List.mem_map] at hp
  rcases hp with ((((rfl | rfl) | ⟨-, rfl⟩) | ⟨-, rfl⟩) | ⟨-, rfl⟩) | ⟨skill, -, rfl⟩ <;> simp

theorem exists_item_of_mem_pictures {students : List Student} {items : List Item}
    {furniture : List Furniture} {p : RemotePicture} (hp : p ∈ pictures students items furniture)
    (hkind : p.kind = .item) : ∃ i ∈ items, i.icon ≠ "" ∧ p = itemPicture i := by
  have hinterface : ∀ p ∈ interfacePictures, p.kind ≠ .item := by decide +kernel
  simp only [pictures, List.mem_append, List.mem_flatMap, List.mem_map, List.mem_filter] at hp
  rcases hp with ((((⟨s, -, hp⟩ | ⟨category, -, rfl⟩) | ⟨key, -, rfl⟩) | ⟨i, ⟨hi, hicon⟩, rfl⟩) |
    ⟨f, -, rfl⟩) | hp
  · exact absurd hkind (kind_of_mem_studentPictures hp)
  · cases hkind
  · cases hkind
  · exact ⟨i, hi, by simpa using hicon, rfl⟩
  · cases hkind
  · exact absurd hkind (hinterface p hp)

/-- **The icons of items are planned by the rows with an icon.** -/
theorem item_planned_iff {root : AssetRoot} {students : List Student} {items : List Item}
    {furniture : List Furniture} {force : Bool} {id : Nat} :
    (∃ d ∈ picturePlan root students items furniture force,
      root.assetPath .item (toString id) = .ok d.target) ↔
        ∃ i ∈ items, i.id = id ∧ i.icon ≠ "" := by
  constructor
  · rintro ⟨d, hd, htarget⟩
    obtain ⟨before, p, after, hsplit, hp, -⟩ := mem_picturePlan_iff.1 hd
    obtain ⟨hkind, hname⟩ :=
      AssetRoot.assetPath_injective (pictureDownload?_eq_some_iff.1 hp).1 htarget
    have hmem : p ∈ pictures students items furniture := by simp [hsplit]
    obtain ⟨i, hi, hicon, rfl⟩ := exists_item_of_mem_pictures hmem hkind
    exact ⟨i, hi, toString_injective hname, hicon⟩
  · rintro ⟨i, hi, rfl, hicon⟩
    exact (plannedOnce_item hi hicon).exists_mem

/-! ### Gifts among the planned pictures -/

/-- The pictures are planned by the rows that are shown. -/
theorem plannedPictures_eq_ok_iff {files : Files} {root : AssetRoot} {force : Bool}
    {plan : List Download} : plannedPictures files root force = .ok plan ↔
      ∃ students, table files root "students" Student.ofJson? = .ok students ∧
        plan = picturePlan root students (ItemTables.load files root).shownItems
          (ItemTables.load files root).shownFurniture force := by
  constructor
  · intro h
    obtain ⟨students, hstudents, h⟩ := bind_eq_ok_iff.1 h
    exact ⟨students, hstudents, (Except.ok.inj h).symm⟩
  · rintro ⟨students, hstudents, rfl⟩
    exact bind_eq_ok_iff.2 ⟨students, hstudents, rfl⟩

theorem gift_planned_iff {files : Files} {root : AssetRoot} {force : Bool} {plan : List Download}
    (hplan : plannedPictures files root force = .ok plan) {tags : List String} {gift : Item}
    (hgift : gift ∈ (ItemTables.load files root).favorsByTags tags) (hicon : gift.icon ≠ "") :
    (∃ d ∈ plan, root.assetPath .item (toString gift.id) = .ok d.target) ↔
      ∃ row ∈ (ItemTables.load files root).shownItems, row.id = gift.id := by
  obtain ⟨students, -, rfl⟩ := plannedPictures_eq_ok_iff.1 hplan
  rw [item_planned_iff]
  constructor
  · rintro ⟨row, hrow, hid, -⟩
    exact ⟨row, hrow, hid⟩
  · rintro ⟨row, hrow, hid⟩
    exact ⟨gift, ItemTables.mem_shownItems_of_id_eq hgift hrow hid, rfl, hicon⟩

/-- **The icon of a gift is planned exactly if a Chinese row has its id.**  The tables are those in
the files when the data files have been downloaded. -/
theorem favors_planned_iff {σ : Type} (K : Codec) (remote : Remote σ) (root : AssetRoot)
    (options : SyncOptions) (files : Files) (state : σ) (report : SyncReport)
    (hreport : (run K remote root options files state).result = .ok report) :
    let data := dataPlan root options.languages
    let first := Download.runAll K remote data files state
    let tables := ItemTables.load first.files root
    ∃ plan, plannedPictures first.files root options.force = .ok plan ∧
      report = .ofResults ((data ++ plan).zip
        (first.result ++ (Download.runAll K remote plan first.files first.state).result)) ∧
      ∀ tags, ∀ gift ∈ tables.favorsByTags tags, gift.icon ≠ "" →
        ((∃ d ∈ plan, root.assetPath .item (toString gift.id) = .ok d.target) ↔
          ∃ row ∈ tables.shownItems, row.id = gift.id) := by
  intro data first tables
  obtain ⟨plan, hplan⟩ := planned_of_run hreport
  have hrun := congrArg Transfer.result (run_of_planned options rfl hplan rfl)
  refine ⟨plan, hplan, Except.ok.inj (hreport.symm.trans hrun), fun tags gift hgift hicon => ?_⟩
  exact gift_planned_iff hplan hgift hicon

/-! ### The tables after a run -/

theorem jp_mem_neededLanguages (languages : List Language) : .jp ∈ neededLanguages languages := by
  rw [neededLanguages, List.mem_eraseDups]
  exact List.mem_cons_of_mem _ List.mem_cons_self

/-- The tables of items are read from what stands at the data files. -/
theorem itemTables_congr {root : AssetRoot} (languages : List Language) {a b : Files}
    (h : ∀ d ∈ dataPlan root languages, a.at? d.target = b.at? d.target) :
    ItemTables.load a root = ItemTables.load b root := by
  have hcn := cn_mem_neededLanguages languages
  have hjp := jp_mem_neededLanguages languages
  simp only [ItemTables.load, tableRows]
  rw [readText?_congr h hcn (by decide), readText?_congr h hcn (by decide),
    readText?_congr h hjp (by decide), readText?_congr h hjp (by decide),
    readText?_congr h hjp (by decide)]

/-- **The pictures change no table.**  After a run the tables of items are those that its pictures
were planned from. -/
theorem itemTables_of_run {σ : Type} (K : Codec) (remote : Remote σ) (answer : String → Reply)
    (hremote : ∀ url state, (remote.reply url state).1 = answer url) (root : AssetRoot)
    (options : SyncOptions) (files : Files) (state : σ) (htree : files.IsTree)
    (hdata : ∀ d ∈ dataPlan root options.languages, d.Writable files) (plan : List Download)
    (hplan : plannedPictures
      (Download.runAll K remote (dataPlan root options.languages) files state).files root
        options.force = .ok plan)
    (hpictures : ∀ d ∈ plan, d.needed
        (Download.runAll K remote (dataPlan root options.languages) files state).files = true →
      d.Writable (Download.runAll K remote (dataPlan root options.languages) files state).files) :
    ItemTables.load (run K remote root options files state).files root =
      ItemTables.load
        (Download.runAll K remote (dataPlan root options.languages) files state).files root := by
  obtain ⟨hnodup, hkept⟩ := of_plannedPictures_eq_ok hplan
  have hkeptUnder : ∀ d ∈ plan, KeptUnder root 0 d := fun d hd => (hkept d hd).1
  have hdataPlan : Separate files (dataPlan root options.languages) :=
    separate_dataPlan htree fun d hd => (keptUnder_of_mem_dataPlan hd).ready (hdata d hd)
  obtain ⟨-, hfirst⟩ := hdataPlan.runAll_settled hremote (.refl files) state
  have hpicturePlan := separate_pictures hfirst.tree (hfirst.stands hdataPlan) hnodup hkeptUnder
    fun d hd hneeded => (hkeptUnder d hd).ready (hpictures d hd hneeded)
  rw [run_of_planned options rfl hplan rfl]
  obtain ⟨-, hsecond⟩ := hpicturePlan.runAll_settled hremote (.refl _)
    (Download.runAll K remote (dataPlan root options.languages) files state).state
  obtain ⟨-, -, hat⟩ := data_again hdataPlan hfirst hkeptUnder hpicturePlan hsecond
  exact itemTables_congr options.languages hat

/-! ### A gift of one table -/

/-- A table with one gift. -/
def giftRows : String :=
  "[\x7b\"Id\":7,\"Category\":\"Favor\",\"Tags\":[\"A\"],\"Icon\":\"gift\"\x7d]"

/-- The gift. -/
def someGift : Item := { id := 7, category := "Favor", tags := ["A"], icon := "gift" }

/-- A remote that has no students, the gift among the Japanese items, and the Chinese items. -/
def giftAnswer (shown : String) (url : String) : Reply :=
  if url = urlOf "data/cn/students.json" then .ok (.text "[]")
  else if url = urlOf "data/jp/items.json" then .ok (.text giftRows)
  else if url = urlOf "data/cn/items.json" then .ok (.text shown)
  else .error (.other "404")

/-- The remote of these answers. -/
def giftRemote (shown : String) : Remote Unit := ⟨fun url state => (giftAnswer shown url, state)⟩

/-- What the data files leave of it in an empty tree. -/
def giftFiles (shown : String) : Files := ⟨[(["r"], .directory), (["r", "data"], .directory),
  (["r", "data", "cn"], .directory), (["r", "data", "cn", "students.json"], .file (.text "[]")),
  (["r", "data", "cn", "items.json"], .file (.text shown)), (["r", "data", "jp"], .directory),
  (["r", "data", "jp", "items.json"], .file (.text giftRows))], []⟩

theorem gift_data_files : ∀ shown ∈ [giftRows, "[]"],
    (Download.runAll .bySize (giftRemote shown) (dataPlan ⟨"r"⟩ [.cn]) noFiles ()).files =
      giftFiles shown := by
  have hparts : ∀ shown ∈ [giftRows, "[]"],
      let files :=
        (Download.runAll .bySize (giftRemote shown) (dataPlan ⟨"r"⟩ [.cn]) noFiles ()).files
      files.entries = (giftFiles shown).entries ∧ files.working = (giftFiles shown).working := by
    decide +kernel
  intro shown hshown
  obtain ⟨hentries, hworking⟩ := hparts shown hshown
  generalize (Download.runAll .bySize (giftRemote shown)
    (dataPlan ⟨"r"⟩ [.cn]) noFiles ()).files = files at *
  obtain ⟨entries, working⟩ := files
  exact congrArg₂ Files.mk hentries hworking

/-- The run asks for the pictures of nobody and of the Chinese items. -/
theorem gift_run : ∀ shown ∈ [giftRows, "[]"], ∃ report plan,
    (run .bySize (giftRemote shown) ⟨"r"⟩ ⟨[.cn], false⟩ noFiles ()).result = .ok report ∧
      plannedPictures (giftFiles shown) ⟨"r"⟩ false = .ok plan := by
  have hstudents : ∀ shown ∈ [giftRows, "[]"],
      table (giftFiles shown) ⟨"r"⟩ "students" Student.ofJson? = .ok [] := by
    decide +kernel
  intro shown hshown
  have hplan : plannedPictures (giftFiles shown) ⟨"r"⟩ false = _ :=
    plannedPictures_eq_ok_iff.2 ⟨[], hstudents shown hshown, rfl⟩
  have hplanned := gift_data_files shown hshown ▸ hplan
  exact ⟨_, _, congrArg Transfer.result (run_of_planned ⟨[.cn], false⟩ rfl hplanned rfl), hplan⟩

/-- The gift is in both tables, and its icon is planned. -/
theorem favors_planned_iff_of_both :
    ∃ report plan,
      (run .bySize (giftRemote giftRows) ⟨"r"⟩ ⟨[.cn], false⟩ noFiles ()).result = .ok report ∧
      plannedPictures (giftFiles giftRows) ⟨"r"⟩ false = .ok plan ∧
      someGift ∈ (ItemTables.load (giftFiles giftRows) ⟨"r"⟩).favorsByTags ["A"] ∧
      ∃ d ∈ plan, AssetRoot.assetPath ⟨"r"⟩ .item (toString someGift.id) = .ok d.target := by
  obtain ⟨report, plan, hrun, hplan⟩ := gift_run giftRows (by simp)
  have hgift : someGift ∈ (ItemTables.load (giftFiles giftRows) ⟨"r"⟩).favorsByTags ["A"] := by
    decide +kernel
  have hrow : ∃ row ∈ (ItemTables.load (giftFiles giftRows) ⟨"r"⟩).shownItems,
      row.id = someGift.id := by
    decide +kernel
  obtain ⟨plan', hplan', -, hiff⟩ := favors_planned_iff _ _ _ _ _ _ _ hrun
  rw [gift_data_files giftRows (by simp)] at hplan' hiff
  obtain rfl := Except.ok.inj (hplan.symm.trans hplan')
  exact ⟨report, plan, hrun, hplan, hgift, (hiff ["A"] someGift hgift (by decide)).2 hrow⟩

/-- The gift is in the Japanese table alone, and its icon is not planned. -/
theorem favor_unplanned :
    ∃ report plan,
      (run .bySize (giftRemote "[]") ⟨"r"⟩ ⟨[.cn], false⟩ noFiles ()).result = .ok report ∧
      (Download.runAll .bySize (giftRemote "[]") (dataPlan ⟨"r"⟩ [.cn]) noFiles ()).files =
        giftFiles "[]" ∧
      plannedPictures (giftFiles "[]") ⟨"r"⟩ false = .ok plan ∧
      someGift ∈ (ItemTables.load (giftFiles "[]") ⟨"r"⟩).favorsByTags ["A"] ∧
      someGift.icon ≠ "" ∧
      ¬∃ d ∈ plan, AssetRoot.assetPath ⟨"r"⟩ .item (toString someGift.id) = .ok d.target := by
  obtain ⟨report, plan, hrun, hplan⟩ := gift_run "[]" (by simp)
  have hgift : someGift ∈ (ItemTables.load (giftFiles "[]") ⟨"r"⟩).favorsByTags ["A"] := by
    decide +kernel
  have hshown : (ItemTables.load (giftFiles "[]") ⟨"r"⟩).shownItems = [] := by decide +kernel
  refine ⟨report, plan, hrun, gift_data_files "[]" (by simp), hplan, hgift, by decide, ?_⟩
  rw [gift_planned_iff hplan hgift (by decide), hshown]
  simp

end Sync
end DialogueSheet
