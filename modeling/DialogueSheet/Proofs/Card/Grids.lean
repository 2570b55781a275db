/-
# Grids of gifts and furniture

The pictures of the gifts come in the order of their rows, those of the furniture in the order in
which the ids first occur (`FirstOccurrences`).  They are fetched as one batch; whatever order its
calls take their steps in, the first answers are those of the gifts (`gifts_gridded`).

A grid has a cell for each picture, also for one that is missing: three in a row, the rows one
below the other, in the panel and clear of each other.  A picture stands in the cell of its own
index (`Gridded`).
-/
import DialogueSheet.Proofs.Assets.Shared
import DialogueSheet.Proofs.Card.Chips
import DialogueSheet.Proofs.Items.Favored
import DialogueSheet.Proofs.Sync.Covering

namespace DialogueSheet

/-! ### First occurrences -/

/-- The elements of a list, each once, in the order in which they first occur. -/
structure FirstOccurrences {α : Type} [DecidableEq α] (l distinct : List α) : Prop where
  mem_iff : ∀ a, a ∈ distinct ↔ a ∈ l
  ordered : distinct.Pairwise fun a b => l.idxOf a < l.idxOf b

theorem firstOccurrences_eraseDups {α : Type} [DecidableEq α] (l : List α) :
    FirstOccurrences l l.eraseDups where
  mem_iff _ := List.mem_eraseDups
  ordered := by
    induction l using List.reverseRecOn with
    | nil => exact .nil
    | append_singleton l a ih =>
      have hold : l.eraseDups.Pairwise fun b c => (l ++ [a]).idxOf b < (l ++ [a]).idxOf c := by
        refine ih.imp_of_mem fun {b c} hb hc hlt => ?_
        rwa [List.idxOf_append_of_mem (List.mem_eraseDups.1 hb),
          List.idxOf_append_of_mem (List.mem_eraseDups.1 hc)]
      rw [List.eraseDups_append]
      by_cases ha : a ∈ l
      · simpa [List.removeAll, ha] using hold
      · have hnew : ∀ b ∈ l.eraseDups, (l ++ [a]).idxOf b < (l ++ [a]).idxOf a := by
          intro b hb
          have hb := List.mem_eraseDups.1 hb
          rw [List.idxOf_append_of_mem hb, List.idxOf_append_of_notMem ha]
          exact Nat.lt_add_right _ (List.idxOf_lt_length_of_mem hb)
        have hsingle : ([a].removeAll l).eraseDups = [a] := by
          simp [List.removeAll, ha, List.eraseDups_cons]
        rw [hsingle, List.pairwise_append]
        exact ⟨hold, List.pairwise_singleton .., by simpa using hnew⟩

namespace Card

/-! ### Cells -/

/-- Two primitives have no pixel in common. -/
def Apart (p q : Primitive) : Prop :=
  p.left + p.content.size.width ≤ q.left ∨ q.left + q.content.size.width ≤ p.left ∨
    p.bottom ≤ q.top ∨ q.bottom ≤ p.top

/-- The ground of a cell. -/
def cellShape : Shape := .rounded gridCell gridCell 8 cellFill

/-- The box of the pictures in cells. -/
def cellBox : Size := ⟨gridCell - 8, gridCell - 8⟩

/-- The cell with an index in a grid that begins at `top` in the panel at `left`. -/
def cellAt (left top index : Nat) : Primitive :=
  .ofShape cellShape (left + padding + index % gridColumns * gridStride : Nat)
    (top + index / gridColumns * gridStride)

/-- A picture in the middle of the cell with an index. -/
def pictureAt (left top index : Nat) (picture : Picture) : Primitive :=
  let size := picture.size.fitWithin cellBox
  .ofPicture { picture with size := size }
    (left + padding + index % gridColumns * gridStride + (gridCell - size.width) / 2 : Nat)
    (top + index / gridColumns * gridStride + (gridCell - size.height) / 2)

/-- The primitive is the ground of a cell. -/
def isCell (p : Primitive) : Bool :=
  match p.content with
  | .shape s => s = cellShape
  | _ => false

/-- The primitive is a picture. -/
def isPicture (p : Primitive) : Bool :=
  match p.content with
  | .picture _ | .pixels _ => true
  | _ => false

@[simp] theorem isCell_cellAt (left top index : Nat) : isCell (cellAt left top index) = true := by
  simp [isCell, cellAt, Primitive.ofShape]

@[simp] theorem isCell_pictureAt (left top index : Nat) (picture : Picture) :
    isCell (pictureAt left top index picture) = false := rfl

@[simp] theorem isPicture_cellAt (left top index : Nat) :
    isPicture (cellAt left top index) = false := rfl

@[simp] theorem isPicture_pictureAt (left top index : Nat) (picture : Picture) :
    isPicture (pictureAt left top index picture) = true := rfl

theorem map_lowered_grid (left top : Nat) (icons : List (Option Picture)) :
    (grid left icons).primitives.map (Primitive.lowered top) =
      icons.zipIdx.flatMap fun (icon, index) =>
        cellAt left top index :: icon.toList.map (pictureAt left top index) :=
  (shifts_gridCells left icons top).symm

theorem filter_isCell_grid (left top : Nat) (icons : List (Option Picture)) :
    ((grid left icons).primitives.map (Primitive.lowered top)).filter isCell =
      (List.range icons.length).map (cellAt left top) := by
  have hcell : ∀ x : Option Picture × Nat,
      (cellAt left top x.2 :: x.1.toList.map (pictureAt left top x.2)).filter isCell =
        [cellAt left top x.2] := by
    rintro ⟨_ | picture, index⟩ <;> simp
  rw [map_lowered_grid, List.filter_flatMap, List.range_eq_range', ← List.zipIdx_map_snd,
    List.map_map]
  simp only [hcell]
  exact List.flatMap_pure_eq_map (fun x : Option Picture × Nat => cellAt left top x.2) _

theorem filter_isPicture_grid (left top : Nat) (icons : List (Option Picture)) :
    ((grid left icons).primitives.map (Primitive.lowered top)).filter isPicture =
      icons.zipIdx.filterMap fun (icon, index) => icon.map (pictureAt left top index) := by
  have hpicture : ∀ x : Option Picture × Nat,
      (cellAt left top x.2 :: x.1.toList.map (pictureAt left top x.2)).filter isPicture =
        (x.1.map (pictureAt left top x.2)).toList := by
    rintro ⟨_ | picture, index⟩ <;> simp
  rw [map_lowered_grid, List.filter_flatMap, List.filterMap_eq_flatMap_toList]
  simp only [hpicture]

/-! ### Where cells stand -/

theorem left_cellAt (left top index : Nat) :
    (cellAt left top index).left = (left + 12 + index % 3 * 108 : Nat) := rfl

theorem top_cellAt (left top index : Nat) :
    (cellAt left top index).top = top + index / 3 * 108 := rfl

theorem size_cellAt (left top index : Nat) :
    (cellAt left top index).content.size = ⟨100, 100⟩ := rfl

theorem bottom_cellAt (left top index : Nat) :
    (cellAt left top index).bottom = top + index / 3 * 108 + 100 := rfl

theorem apart_cellAt {i j : Nat} (h : i < j) (left top : Nat) :
    Apart (cellAt left top i) (cellAt left top j) := by
  simp only [Apart, left_cellAt, top_cellAt, size_cellAt, bottom_cellAt]
  omega

theorem pairwise_apart_cellAt (left top count : Nat) :
    ((List.range count).map (cellAt left top)).Pairwise Apart :=
  List.pairwise_map.2 (List.pairwise_lt_range.imp fun h => apart_cellAt h left top)

section
variable (left top index : Nat) (picture : Picture)

theorem left_pictureAt : (pictureAt left top index picture).left =
    (left + 12 + index % 3 * 108 + (100 - (picture.size.fitWithin cellBox).width) / 2 : Nat) := rfl

theorem top_pictureAt : (pictureAt left top index picture).top =
    top + index / 3 * 108 + (100 - (picture.size.fitWithin cellBox).height) / 2 := rfl

theorem size_pictureAt :
    (pictureAt left top index picture).content.size = picture.size.fitWithin cellBox := rfl

/-- A picture lies inside its cell, whatever its size. -/
theorem pictureAt_inside : Inside (pictureAt left top index picture) (cellAt left top index) := by
  have hbox : IconBox cellBox := by decide
  obtain ⟨hwidth, hheight⟩ := hbox.fitWithin_le picture.size
  have hside : cellBox = ⟨92, 92⟩ := rfl
  simp only [hside] at hwidth hheight
  constructor
  · rw [left_cellAt, left_pictureAt]
    omega
  · rw [left_cellAt, left_pictureAt, size_cellAt, size_pictureAt, hside]
    simp only
    omega
  · rw [top_cellAt, top_pictureAt]
    omega
  · rw [bottom_cellAt, Primitive.bottom, top_pictureAt, size_pictureAt, hside]
    omega

end

theorem cellAt_inside {count index height : Nat} (hindex : index < count) (left : Nat) {top : Nat}
    (hheight : top + gridRows count * gridStride ≤ height) :
    Inside (cellAt left top index) (frame left 0 ⟨columnWidth, height⟩) := by
  have hrow : index / 3 + 1 ≤ gridRows count := by
    simp only [gridRows, gridColumns]
    omega
  rw [show gridStride = 108 from rfl] at hheight
  have hframe : (frame left 0 ⟨columnWidth, height⟩).left = left ∧
      (frame left 0 ⟨columnWidth, height⟩).content.size = ⟨342, height⟩ := ⟨rfl, rfl⟩
  constructor
  · rw [hframe.1, left_cellAt]
    omega
  · rw [hframe.1, hframe.2, left_cellAt, size_cellAt]
    simp only
    omega
  · exact Nat.zero_le _
  · rw [bottom_frame, bottom_cellAt]
    simp only
    omega

/-! ### Columns -/

namespace Subject

variable {s : Subject}

/-- The heading of a column. -/
def headingText (s : Subject) (key : String) : TextRequest :=
  ((TextRequest.plain (s.label key) 24 darkText).withWidth (columnWidth - 24)).inHeading

/-- The text where there is nothing. -/
def nothingText (s : Subject) : TextRequest := .plain (s.label "None") 22 mutedText

/-- What a column with pictures draws from `top` on, below its heading. -/
structure Columned (s : Subject) (key : String) (left : Nat) (icons : List (Option Picture))
    (top : Nat) (column : Strip) : Prop where
  heading : ∃ t, s.setText (s.headingText key) = .ok t ∧ top = padding + (t.size.height + 8) ∧
    column.primitives.head? = some (.ofText t (left + padding : Nat) padding)
  /-- A grid has a row for every three pictures and one for the rest. -/
  height_of_some : icons ≠ [] → column.height = top + gridRows icons.length * gridStride + 4
  height_of_none : icons = [] → ∃ t, s.setText s.nothingText = .ok t ∧
    column.height = top + (t.size.height + 12)
  /-- There is a cell for each picture, and no other. -/
  cells : column.primitives.filter isCell = (List.range icons.length).map (cellAt left top)
  /-- Every picture that is not missing stands in the cell of its index, and no other. -/
  pictures : column.primitives.filter isPicture =
    icons.zipIdx.filterMap fun (icon, index) => icon.map (pictureAt left top index)

theorem stack_heading (heading body : Strip) :
    Strip.stack [.gap padding, heading, body] =
      ⟨heading.primitives.map (Primitive.lowered padding) ++
          body.primitives.map (Primitive.lowered (padding + heading.height)),
        padding + heading.height + body.height⟩ := by
  simp [Strip.stack, Strip.gap, Function.comp_def, Nat.add_assoc]

theorem columned_of_ok {key : String} {left : Nat} {icons : List (Option Picture)} {column : Strip}
    (h : s.gridColumn key left icons = .ok column) :
    ∃ top, s.Columned key left icons top column := by
  rw [gridColumn_eq] at h
  obtain ⟨heading, strips, hheading, hstrips, rfl⟩ := of_stacked h
  obtain ⟨title, htitle, hheading⟩ := bind_eq_ok_iff.1 hheading
  obtain rfl := Except.ok.inj hheading
  refine ⟨padding + (title.size.height + 8), ?_⟩
  split at hstrips
  · rename_i hempty
    obtain rfl := List.isEmpty_iff.1 hempty
    obtain ⟨strip, hnothing, hstrips⟩ := bind_eq_ok_iff.1 hstrips
    obtain rfl := Except.ok.inj hstrips
    obtain ⟨t, ht, hstrip⟩ := bind_eq_ok_iff.1 hnothing
    obtain rfl := Except.ok.inj hstrip
    rw [stack_heading]
    exact ⟨⟨title, htitle, rfl, rfl⟩, fun hsome => absurd rfl hsome, fun _ => ⟨t, ht, rfl⟩, rfl,
      rfl⟩
  · rename_i hsome
    obtain rfl := Except.ok.inj hstrips
    rw [stack_heading]
    refine ⟨⟨title, htitle, rfl, rfl⟩, fun _ => rfl, fun hnone => ?_, ?_, ?_⟩
    · exact absurd (List.isEmpty_iff.2 hnone) hsome
    · rw [List.filter_append, filter_isCell_grid]
      rfl
    · rw [List.filter_append, filter_isPicture_grid]
      rfl

/-! ### The two panels -/

/-- The rows of the gifts, in the order of their table. -/
def giftRows (s : Subject) : List Item :=
  s.resources.items.items.filter (ItemTables.isFavored s.student.favorTags)

/-- A gift is shown with the id of its row, whichever row it is shown by. -/
theorem giftIcons_eq (s : Subject) :
    s.giftIcons = s.giftRows.map fun row => s.resources.picture? .item (toString row.id) := by
  rw [giftIcons, giftItems, ItemTables.favorsByTags, List.map_map]
  refine List.map_congr_left fun row _ => ?_
  have hid := (s.resources.items.shows_shownFor row).id_eq
  exact congrArg (fun id => s.resources.picture? .item (toString id)) hid

/-- A panel with a grid: its column, and the cells inside of it and clear of each other. -/
structure Gridded (s : Subject) (key : String) (left height : Nat) (icons : List (Option Picture))
    (top : Nat) (column : Strip) : Prop extends s.Columned key left icons top column where
  inside : ∀ index < icons.length,
    Inside (cellAt left top index) (frame left 0 ⟨columnWidth, height⟩)
  apart : ((List.range icons.length).map (cellAt left top)).Pairwise Apart
  within : ∀ index picture, Inside (pictureAt left top index picture) (cellAt left top index)

theorem Columned.gridded {key : String} {left height : Nat} {icons : List (Option Picture)}
    {top : Nat} {column : Strip} (h : s.Columned key left icons top column)
    (hheight : column.height ≤ height) : s.Gridded key left height icons top column where
  toColumned := h
  inside index hindex := by
    have hsome : icons ≠ [] := by
      rintro rfl
      exact Nat.not_lt_zero _ hindex
    refine cellAt_inside hindex left ?_
    have hcolumn := h.height_of_some hsome
    omega
  apart := pairwise_apart_cellAt ..
  within := pictureAt_inside left top

/-! ### Pictures of files -/

/-- The pictures are those of the files under a root. -/
def PicturesOf (s : Subject) (K : Codec) (files : Files) (root : AssetRoot) : Prop :=
  ∀ kind name, s.resources.picture? kind name = root.namedPicture? (files.picture? K) kind name

theorem picturesOf_of_eq {K : Codec} {files : Files} {root : AssetRoot} {catalog : Catalog}
    {items : ItemTables} {localization : Localization}
    (h : s.resources = .ofTables K files root catalog items localization) :
    s.PicturesOf K files root := by
  intro kind name
  rw [h]
  exact Resources.picture?_ofTables K files root catalog items localization kind name

/-- The picture with an id is that of one file: no id is refused as a name. -/
theorem PicturesOf.picture?_toString {K : Codec} {files : Files} {root : AssetRoot}
    (h : s.PicturesOf K files root) (kind : AssetKind) (id : Nat) :
    s.resources.picture? kind (toString id) =
      files.picture? K (joinPath (root.directory kind) (toString id ++ ".png")) := by
  simp only [h kind, AssetRoot.namedPicture?, AssetRoot.assetPath, nameFault?_toString]

/-- What is fetched in one batch, in any order, are the pictures of both grids, one behind the
other. -/
theorem answers_giftBatch {K : Codec} {files : Files} {root : AssetRoot}
    (hpictures : s.PicturesOf K files root) {requests : List PictureRequest}
    {schedule : List (Turn Picture)}
    (hfiles : ∀ t ∈ schedule, t.decoded? = files.picture? K)
    (hnames : ∀ request ∈ requests, ∀ path, request ≠ .load path) {i : Nat}
    (hrequest : requests[i]? = some (.prefetch s.giftBatch)) {answers : List (Option Picture)}
    (h : ((Assets.start root requests).run schedule).answers? i = some answers) :
    answers = s.giftIcons ++ s.furnitureIcons := by
  rw [Assets.answers_eq_prefetch hfiles hnames hrequest h, Cache.prefetch_empty, ← map_giftBatch]
  exact List.map_congr_left fun picture _ => (hpictures picture.1 picture.2).symm

/-- How the gifts and the furniture are drawn. -/
structure GiftGrids (s : Subject) : Prop where
  /-- Nothing but a text that cannot be measured stops it. -/
  stops : StopsAt s.resources.measure s.gifts
  /-- It leaves the same strip wherever it starts. -/
  placed : ∀ f, s.placeGifts f = f.past <$> s.gifts
  /-- The answers to the batch, split at the number of gifts, are those of the two tables. -/
  answers : s.giftAnswers = (s.giftIcons, s.furnitureIcons)
  /-- The gifts have the pictures of their rows, in the order of the table. -/
  gifts : s.giftIcons =
    s.giftRows.map fun row => s.resources.picture? .item (toString row.id)
  /-- The furniture has the picture of each id once, where it first occurs. -/
  furniture : ∃ ids, FirstOccurrences s.student.furniture ids ∧
    s.furnitureIcons = ids.map fun id => s.resources.picture? .furniture (toString id)
  /-- Each grid stands in a panel of its own, both as high as the higher column. -/
  panels : ∀ strip, s.gifts = .ok strip → ∃ gifts furniture height top top',
    strip = ⟨frame margin 0 ⟨columnWidth, height⟩ :: frame secondColumn 0 ⟨columnWidth, height⟩ ::
      (gifts.primitives ++ furniture.primitives), height + sectionGap⟩ ∧
    height = max gifts.height furniture.height + 4 ∧
    s.Gridded "FavorItems" margin height s.giftIcons top gifts ∧
    s.Gridded "Furniture" secondColumn height s.furnitureIcons top' furniture ∧
    Apart (frame margin 0 ⟨columnWidth, height⟩) (frame secondColumn 0 ⟨columnWidth, height⟩)
  /-- An id has the picture of its own file. -/
  own : ∀ K files root, s.PicturesOf K files root → ∀ kind, ∀ id : Nat,
    s.resources.picture? kind (toString id) =
      files.picture? K (joinPath (root.directory kind) (toString id ++ ".png"))
  /-- Fetched in one batch, in any order, the pictures come apart where those of the gifts end. -/
  batch : ∀ K files root, s.PicturesOf K files root → ∀ requests schedule i,
    requests[i]? = some (.prefetch s.giftBatch) →
    (∀ t ∈ schedule, t.decoded? = files.picture? K) →
    (∀ request ∈ requests, ∀ path, request ≠ .load path) →
      (∀ answers, ((Assets.start root requests).run schedule).answers? i = some answers →
        answers.splitAt s.giftRows.length = (s.giftIcons, s.furnitureIcons)) ∧
      ((∀ j < s.giftBatch.length, 3 ≤ (schedule.map Turn.place).count ⟨i, j⟩) →
        ∃ answers, ((Assets.start root requests).run schedule).answers? i = some answers)

/-- **The gifts and the furniture stand in grids, in two panels of one height.** -/
theorem gifts_gridded (s : Subject) : s.GiftGrids where
  stops := (stopsAt_gridColumn _ _ _).bind fun _ => (stopsAt_gridColumn _ _ _).bind fun _ =>
    StopsAt.ok _
  placed := s.placeGifts_eq
  answers := s.giftAnswers_eq
  gifts := s.giftIcons_eq
  furniture := ⟨_, firstOccurrences_eraseDups _, rfl⟩
  panels strip hstrip := by
    obtain ⟨gifts, hgifts, hrest⟩ := bind_eq_ok_iff.1 hstrip
    obtain ⟨furniture, hfurniture, hstrip⟩ := bind_eq_ok_iff.1 hrest
    obtain rfl := Except.ok.inj hstrip
    obtain ⟨top, hgifts⟩ := columned_of_ok hgifts
    obtain ⟨top', hfurniture⟩ := columned_of_ok hfurniture
    have hapart : ((12 + 342 : Nat) : Int) ≤ (366 : Nat) := by decide
    exact ⟨gifts, furniture, max gifts.height furniture.height + 4, top, top', rfl, rfl,
      hgifts.gridded (by omega), hfurniture.gridded (by omega), .inl hapart⟩
  own _ _ _ hpictures := hpictures.picture?_toString
  batch _ files root hpictures requests schedule i hrequest hfiles hnames := by
    refine ⟨fun answers hanswers => ?_, fun hturns => ?_⟩
    · have hlength : s.giftIcons.length = s.giftRows.length := by
        rw [s.giftIcons_eq, List.length_map]
      rw [answers_giftBatch hpictures hfiles hnames hrequest hanswers, List.splitAt_eq, ← hlength,
        List.take_left, List.drop_left]
    · refine (Assets.run_served root requests schedule).answered i _ hrequest fun j hj => ?_
      rw [PictureRequest.paths, List.length_map] at hj
      exact hturns j hj

end Subject

/-- A root with pictures of items and of furniture. -/
def gridFiles : Files where
  entries := [(["r"], .directory), (["r", "items"], .directory), (["r", "furnitures"], .directory),
    (["r", "items", "2.png"], .file (.picture ⟨30, 10⟩ .png 75)),
    (["r", "items", "4.png"], .file (.picture ⟨200, 200⟩ .png 310)),
    (["r", "furnitures", "5.png"], .file (.picture ⟨8, 8⟩ .png 72))]
  working := []

/-- A student with four gifts and three pieces of furniture, one of them named twice. -/
def gridSubject : Subject :=
  let gift (id : Nat) (tag : String) : Item :=
    { id := id, category := ItemTables.giftCategory, tags := [tag] }
  ⟨.ofTables .bySize gridFiles ⟨"r"⟩ (.ofRecords [])
    (.ofRows [gift 1 "A", gift 2 "A", gift 3 "B", gift 4 "A", gift 5 "A"] [] []) ⟨[]⟩, {},
    { giftTags := ["A"], furniture := [7, 5, 7, 9] }, .en⟩

/-- The calls of a batch by turns, the last one first. -/
def gridTurns : List (Turn Picture) :=
  (List.replicate 3 (List.range 7).reverse).flatten.map fun j =>
    ⟨⟨0, j⟩, gridFiles.picture? .bySize⟩

/-- Three of the pictures are there, and each stands in its own cell. -/
theorem gifts_gridded_of_seven :
    let picture (directory name : String) (size : Size) : Picture :=
      ⟨.file ["r", directory, name], size⟩
    let two := picture "items" "2.png" ⟨30, 10⟩
    let four := picture "items" "4.png" ⟨200, 200⟩
    let five := picture "furnitures" "5.png" ⟨8, 8⟩
    gridSubject.giftIcons = [none, some two, some four, none] ∧
      gridSubject.furnitureIcons = [none, some five, none] ∧
      (∃ strip top top', gridSubject.gifts = .ok strip ∧
        strip.primitives.filter isCell =
          (List.range 4).map (cellAt margin top) ++ (List.range 3).map (cellAt secondColumn top') ∧
        strip.primitives.filter isPicture = [pictureAt margin top 1 two,
          pictureAt margin top 2 four, pictureAt secondColumn top' 1 five]) ∧
      ∃ answers, ((Assets.start ⟨"r"⟩ [.prefetch gridSubject.giftBatch]).run
          gridTurns).answers? 0 = some answers ∧
        answers.splitAt 4 = (gridSubject.giftIcons, gridSubject.furnitureIcons) := by
  intro picture two four five
  have hgifts : gridSubject.giftIcons = [none, some two, some four, none] := by decide +kernel
  have hfurniture : gridSubject.furnitureIcons = [none, some five, none] := by decide +kernel
  obtain ⟨-, -, -, -, -, hpanels, -, hbatch⟩ := Subject.gifts_gridded gridSubject
  refine ⟨hgifts, hfurniture, ?_, ?_⟩
  · have hdrawn : (gridSubject.gifts.toOption.map Strip.height) = some 288 := by decide +kernel
    obtain ⟨strip, hstrip, -⟩ := exists_ok_of_toOption hdrawn
    obtain ⟨gifts, furniture, height, top, top', hprimitives, -, hgrid, hgrid', -⟩ :=
      hpanels strip hstrip
    refine ⟨strip, top, top', hstrip, ?_, ?_⟩
    · rw [hprimitives]
      simp only [List.filter_cons, List.filter_append, hgrid.cells, hgrid'.cells, hgifts,
        hfurniture]
      rfl
    · rw [hprimitives]
      simp only [List.filter_cons, List.filter_append, hgrid.pictures, hgrid'.pictures, hgifts,
        hfurniture]
      rfl
  · have hpictures : gridSubject.PicturesOf .bySize gridFiles ⟨"r"⟩ :=
      Subject.picturesOf_of_eq rfl
    obtain ⟨hsplit, hanswered⟩ := hbatch .bySize gridFiles ⟨"r"⟩ hpictures
      [.prefetch gridSubject.giftBatch] gridTurns 0 rfl (by simp [gridTurns]) (by simp)
    obtain ⟨answers, hanswers⟩ := hanswered (by decide +kernel)
    exact ⟨answers, hanswers, hsplit answers hanswers⟩

end Card
end DialogueSheet
