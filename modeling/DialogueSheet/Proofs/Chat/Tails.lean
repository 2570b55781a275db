/-
# Tails of bubbles

What someone says is drawn as bubbles and pictures, one for each segment of the lines that are
not blank (`spoken`).  A tail hangs on the first of them, if that is a bubble and the first line
shows anything at all.

A line of nothing but marks that count no picture shows nothing (`Segment.silent`), but it is
still the first of the lines when it stands in front.  Then the first bubble has no tail, and the
block is not drawn as if this line were not there.  This is the one way to lose the tail, and the
one way in which such lines change a block (`tails_of_saying`).
-/
import DialogueSheet.Proofs.Chat.Drawn
import DialogueSheet.Proofs.Script.Segments

namespace DialogueSheet
namespace Chat

/-- Whether a primitive is a polygon.  Among bubbles, pictures and names only tails are. -/
def isTail (p : Primitive) : Bool :=
  match p.content with
  | .shape ⟨_, .polygon _, _, _⟩ => true
  | _ => false

/-- The tails of a strip. -/
def tailsOf (strip : Strip) : List Primitive := strip.primitives.filter isTail

/-- A block in which a student or, without one, the reader says something. -/
def saying : Option StudentRef → List String → Block
  | some who, lines => .speaker who lines
  | none, lines => .counterpart lines

/-- The side on which someone speaks. -/
def sideOf : Option StudentRef → Side
  | some _ => .left
  | none => .right

/-- What is said, in order. -/
def spoken (lines : List String) (imageCount : Nat) : List Segment :=
  (shownLines lines).flatMap (segments · imageCount)

/-- The lines that show anything. -/
def voiced (lines : List String) (imageCount : Nat) : List String :=
  (shownLines lines).filter (!Segment.silent · imageCount)

/-- The first line shows something. -/
def leads (lines : List String) (imageCount : Nat) : Bool :=
  match shownLines lines with
  | [] => true
  | first :: _ => !Segment.silent first imageCount

/-- Segments of which only the first may be marked. -/
def marked (led : Bool) : List Segment → List (Segment × Bool)
  | [] => []
  | first :: rest => (first, led) :: rest.map (·, false)

/-- The tails of what is shown, one strip after the other: only a text in front may have one. -/
def hung (side : Side) (led : Bool) : List Segment → List (List Primitive)
  | [] => []
  | .text _ :: rest => (if led then [tail side 0] else []) :: rest.map fun _ => []
  | .image _ :: rest => [] :: rest.map fun _ => []

/-- What is shown first has its tail if it is a text: the first line shows something, or it is no
text. -/
def Led (lines : List String) (imageCount : Nat) : Prop :=
  leads lines imageCount = true ∨ ∀ text, (spoken lines imageCount).head? ≠ some (.text text)

/-- The strip shows the segment, apart from tails. -/
def Scene.Shows (s : Scene) (side : Side) : Segment → Strip → Prop
  | .text text, strip =>
    ∃ t, s.setText ((TextRequest.plain text bodySize bubbleText).withWidth bubbleWidth) = .ok t ∧
      strip.height = t.size.height + 40 ∧
      strip.primitives.filter (!isTail ·) = [
        .ofShape (.rounded (t.size.width + 32) (t.size.height + 32) 12 side.fill)
          (bubbleLefts side t.size.width).1 0,
        .ofText t (bubbleLefts side t.size.width).2 16]
  | .image index, strip =>
    ∃ picture left, s.images[index - 1]? = some picture ∧
      strip = ⟨[.ofPicture picture left 0], picture.size.height + 8⟩

variable {s : Scene} {lines : List String} {n : Nat} {side : Side}

/-! ### What is said -/

theorem marked_false (shown : List Segment) : marked false shown = shown.map (·, false) := by
  cases shown <;> rfl

theorem map_fst_marked (led : Bool) (shown : List Segment) :
    (marked led shown).map Prod.fst = shown := by
  cases shown with
  | nil => rfl
  | cons first rest => simp [marked, Function.comp_def]

theorem marked_append {led : Bool} {shown : List Segment} (h : shown = [] → led = false)
    (later : List Segment) :
    marked led (shown ++ later) = marked led shown ++ later.map (·, false) := by
  cases shown with
  | nil => rw [h rfl, List.nil_append, marked_false, marked_false, List.map_nil, List.nil_append]
  | cons first rest => simp [marked]

/-- Segments that are marked by their places, at none of which there is a mark. -/
theorem map_zipIdx_of_false (mark : Nat → Bool) {k : Nat} (h : ∀ i, k ≤ i → mark i = false)
    (shown : List Segment) :
    (shown.zipIdx k).map (fun p => (p.1, mark p.2)) = shown.map (·, false) := by
  induction shown generalizing k with
  | nil => rfl
  | cons segment rest ih =>
    rw [List.zipIdx_cons, List.map_cons, ih fun i hi => h i (Nat.le_of_succ_le hi), h k le_rfl]
    rfl

/-- In the first line the first segment is marked. -/
theorem map_zipIdx_first (shown : List Segment) :
    (shown.zipIdx.map fun p => (p.1, decide True && decide (p.2 = 0))) = marked true shown := by
  cases shown with
  | nil => rfl
  | cons first rest =>
    have hrest := map_zipIdx_of_false (fun i => decide True && decide (i = 0)) (k := 1)
      (fun i hi => decide_eq_false (Nat.ne_of_gt hi)) rest
    rw [List.zipIdx_cons, List.map_cons, hrest]
    rfl

/-- Behind the first line nothing is marked. -/
theorem flatMap_zipIdx_succ (rest : List String) (k : Nat) :
    ((rest.zipIdx (k + 1)).flatMap fun (line, m) =>
        (segments line n).zipIdx.map fun (segment, i) => (segment, m = 0 && i = 0)) =
      (rest.flatMap (segments · n)).map (·, false) := by
  induction rest generalizing k with
  | nil => rfl
  | cons line rest ih =>
    have hline := map_zipIdx_of_false (fun i => decide (k + 1 = 0) && decide (i = 0)) (k := 0)
      (fun _ _ => rfl) (segments line n)
    rw [List.zipIdx_cons, List.flatMap_cons, List.flatMap_cons, List.map_append, ih, ← hline]

theorem markedSegments_eq (lines : List String) (n : Nat) :
    markedSegments lines n = marked (leads lines n) (spoken lines n) := by
  unfold markedSegments leads spoken
  cases shownLines lines with
  | nil => rfl
  | cons first rest =>
    simp only [List.zipIdx_cons, List.flatMap_cons, flatMap_zipIdx_succ, map_zipIdx_first]
    cases hsilent : Segment.silent first n with
    | true =>
      rw [Segment.segments_eq_nil_iff.2 hsilent]
      exact (marked_false _).symm
    | false =>
      refine (marked_append (fun hnil => ?_) _).symm
      rw [Segment.segments_eq_nil_iff.1 hnil] at hsilent
      cases hsilent

theorem shownLines_voiced (lines : List String) (n : Nat) :
    shownLines (voiced lines n) = voiced lines n := by
  have htrim : ∀ line ∈ voiced lines n, Text.trim line = line ∧ line ≠ "" := by
    intro line hline
    obtain ⟨hshown, hne⟩ := List.mem_filter.1 (List.mem_of_mem_filter hline)
    obtain ⟨line, -, rfl⟩ := List.mem_map.1 hshown
    exact ⟨Text.trim_trim line, by simpa using hne⟩
  rw [shownLines, List.map_congr_left fun line hline => (htrim line hline).1, List.map_id',
    List.filter_eq_self]
  exact fun line hline => by simpa using (htrim line hline).2

/-- Lines that show nothing say nothing. -/
theorem spoken_voiced (lines : List String) (n : Nat) :
    spoken (voiced lines n) n = spoken lines n := by
  rw [spoken, shownLines_voiced, voiced, spoken]
  induction shownLines lines with
  | nil => rfl
  | cons line rest ih =>
    cases hline : Segment.silent line n with
    | true => simp [hline, ih, Segment.segments_eq_nil_iff.2 hline]
    | false => simp [hline, ih]

theorem leads_voiced (lines : List String) (n : Nat) : leads (voiced lines n) n = true := by
  rw [leads, shownLines_voiced]
  split
  · rfl
  · rename_i first rest hvoiced
    have hmem : first ∈ voiced lines n := hvoiced ▸ List.mem_cons_self
    exact (List.mem_filter.1 hmem).2

/-! ### Tails -/

theorem hung_eq (side : Side) (led : Bool) (shown : List Segment) :
    hung side led shown = (marked led shown).map fun p =>
      if p.2 && p.1.index?.isNone then [tail side 0] else [] := by
  cases shown with
  | nil => rfl
  | cons first rest =>
    cases first with
    | text text =>
      rw [hung, marked, List.map_cons, List.map_map]
      cases led <;> rfl
    | image index =>
      rw [hung, marked, List.map_cons, List.map_map]
      cases led <;> rfl

/-- Only what is shown first decides about the tail. -/
theorem hung_eq_iff {led : Bool} {shown : List Segment} :
    hung side led shown = hung side true shown ↔
      led = true ∨ ∀ text, shown.head? ≠ some (.text text) := by
  cases shown with
  | nil => simp [hung]
  | cons first rest => cases first <;> cases led <;> simp [hung]

theorem flatten_hung_eq_iff {led : Bool} {shown : List Segment} :
    (hung side led shown).flatten = (hung side true shown).flatten ↔
      led = true ∨ ∀ text, shown.head? ≠ some (.text text) := by
  cases shown with
  | nil => simp [hung]
  | cons first rest => cases first <;> cases led <;> simp [hung]

/-! ### Strips -/

@[simp]
theorem isTail_tail (side : Side) (top : Nat) : isTail (tail side top) = true := by
  cases side <;> rfl

@[simp]
theorem isTail_rounded (width height : Nat) (radius : Binary32) (fill : Color) (left : Int)
    (top : Nat) : isTail (.ofShape (.rounded width height radius fill) left top) = false := rfl

@[simp]
theorem isTail_ofText (t : SetText) (left : Int) (top : Nat) :
    isTail (.ofText t left top) = false := rfl

@[simp]
theorem isTail_ofPicture (picture : Picture) (left : Int) (top : Nat) :
    isTail (.ofPicture picture left top) = false := rfl

/-- The strip of a segment shows it, with a tail only if it is a text that is first. -/
theorem of_segmentStrip {segment : Segment} {isFirst : Bool} {strip : Strip}
    (h : s.segmentStrip side isFirst segment = .ok strip)
    (hthere : ∀ index, segment = .image index → 1 ≤ index ∧ index ≤ s.images.length) :
    s.Shows side segment strip ∧
      tailsOf strip = if isFirst && segment.index?.isNone then [tail side 0] else [] := by
  cases segment with
  | text text =>
    obtain ⟨t, ht, rfl⟩ := eq_of_bubble h
    refine ⟨⟨t, ht, rfl, ?_⟩, ?_⟩
    · cases isFirst <;> simp
    · cases isFirst <;> simp [tailsOf, Segment.index?]
  | image index =>
    obtain ⟨hpos, hle⟩ := hthere index rfl
    have hpicture : s.images[index - 1]? = some s.images[index - 1] :=
      List.getElem?_eq_getElem (by omega)
    obtain rfl : s.imageStrip side index = strip := Except.ok.inj h
    rw [Scene.imageStrip, hpicture]
    exact ⟨⟨_, _, hpicture, rfl⟩, by simp [tailsOf, Segment.index?]⟩

theorem index_of_mem_spoken {index : Nat} (h : .image index ∈ spoken lines n) :
    1 ≤ index ∧ index ≤ n := by
  obtain ⟨line, -, hline⟩ := List.mem_flatMap.1 h
  exact Segment.index_of_mem_segments hline

/-- Every segment has its strip, and at most the first has a tail. -/
theorem of_mapM_marked {led : Bool} {shown : List Segment} {parts : List Strip}
    (h : (marked led shown).mapM (fun (segment, isFirst) => s.segmentStrip side isFirst segment) =
      .ok parts)
    (hthere : ∀ index, .image index ∈ shown → 1 ≤ index ∧ index ≤ s.images.length) :
    List.Forall₂ (s.Shows side) shown parts ∧ parts.map tailsOf = hung side led shown := by
  have hmarked : ∀ p ∈ marked led shown, ∀ index, p.1 = .image index →
      1 ≤ index ∧ index ≤ s.images.length := by
    intro p hp index hindex
    have hmem : p.1 ∈ (marked led shown).map Prod.fst := List.mem_map_of_mem hp
    rw [map_fst_marked, hindex] at hmem
    exact hthere index hmem
  have hstrips := (List.forall₂_and_left _ _).2 ⟨hmarked, forall₂_of_mapM_eq_ok h⟩
  constructor
  · rw [← map_fst_marked led shown, List.forall₂_map_left_iff]
    exact hstrips.imp fun p strip hp => (of_segmentStrip hp.2 hp.1).1
  · rw [hung_eq, ← List.forall₂_eq_eq_eq, List.forall₂_map_left_iff, List.forall₂_map_right_iff]
    exact hstrips.flip.imp fun strip p hp => (of_segmentStrip hp.2 hp.1).2

theorem of_bubbles {parts : List Strip} (h : s.bubbles side lines = .ok parts) :
    List.Forall₂ (s.Shows side) (spoken lines s.images.length) parts ∧
      parts.map tailsOf =
        hung side (leads lines s.images.length) (spoken lines s.images.length) := by
  rw [Scene.bubbles, markedSegments_eq] at h
  exact of_mapM_marked h fun index hindex => index_of_mem_spoken hindex

/-! ### Blocks -/

theorem of_saying {who? : Option StudentRef} {strips : List Strip}
    (h : s.block (saying who? lines) = .ok strips) :
    ∃ head parts, s.bubbles (sideOf who?) lines = .ok parts ∧
      strips = head ++ (parts ++ [.gap 8]) ∧ ∀ strip ∈ head, tailsOf strip = [] := by
  cases who? with
  | none =>
    obtain ⟨parts, hparts, rfl⟩ := of_counterpart h
    exact ⟨[], parts, hparts, rfl, by simp⟩
  | some who =>
    obtain ⟨name, parts, -, hparts, rfl⟩ := of_speaker h
    refine ⟨[_], parts, hparts, rfl, fun strip hstrip => ?_⟩
    rw [List.mem_singleton.1 hstrip]
    simp [tailsOf]

theorem flatMap_tailsOf {who? : Option StudentRef} {strips : List Strip}
    (h : s.block (saying who? lines) = .ok strips) :
    strips.flatMap tailsOf = (hung (sideOf who?) (leads lines s.images.length)
      (spoken lines s.images.length)).flatten := by
  obtain ⟨head, parts, hparts, rfl, hhead⟩ := of_saying h
  have hgap : tailsOf (.gap 8) = [] := rfl
  rw [← (of_bubbles hparts).2, List.flatMap_append, List.flatMap_eq_nil_iff.2 hhead]
  simp [hgap, List.flatMap_def]

/-- A block without the lines that show nothing is drawn in the same way when the tail is not
theirs to take. -/
theorem bubbles_voiced (h : Led lines s.images.length) :
    s.bubbles side (voiced lines s.images.length) = s.bubbles side lines := by
  rw [Scene.bubbles, Scene.bubbles, markedSegments_eq, markedSegments_eq, leads_voiced,
    spoken_voiced]
  rcases h with hleads | hpicture
  · rw [hleads]
  · cases hspoken : spoken lines s.images.length with
    | nil => rfl
    | cons first rest =>
      cases first with
      | text text => exact absurd (congrArg List.head? hspoken) (hpicture text)
      | image index =>
        rw [marked, marked, List.mapM_cons, List.mapM_cons]
        rfl

theorem block_saying_congr {who? : Option StudentRef} {lines lines' : List String}
    (h : s.bubbles (sideOf who?) lines' = s.bubbles (sideOf who?) lines) :
    s.block (saying who? lines') = s.block (saying who? lines) := by
  cases who? with
  | none => exact congrArg (· >>= fun strips => .ok (strips ++ [.gap 8])) h
  | some who =>
    have hsides : s.bubbles .left lines' = s.bubbles .left lines := h
    simp only [saying, Scene.block, Scene.speaker, hsides]

/-- **Tails of a block.**  The block leaves its strips wherever it starts.  Each thing that is said
has its strip, and no strip but the first has a tail.  The first has its tail exactly when it is a
text and the first line shows something; only then, or when a picture is first, do lines that show
nothing leave the block as it is without them. -/
theorem tails_of_saying {who? : Option StudentRef} {strips : List Strip}
    (h : s.block (saying who? lines) = .ok strips) :
    let n := s.images.length
    (∀ f, s.addBlock f (saying who? lines) = .ok ((padded f strips).advance blockGap)) ∧
    ∃ head parts, strips = head ++ (parts ++ [.gap 8]) ∧
      (∀ strip ∈ head, tailsOf strip = []) ∧
      List.Forall₂ (s.Shows (sideOf who?)) (spoken lines n) parts ∧
      parts.map tailsOf = hung (sideOf who?) (leads lines n) (spoken lines n) ∧
      (parts.map tailsOf = hung (sideOf who?) true (spoken lines n) ↔ Led lines n) ∧
      (s.block (saying who? (voiced lines n)) = .ok strips ↔ Led lines n) := by
  intro n
  obtain ⟨head, parts, hparts, hstrips, hhead⟩ := of_saying h
  obtain ⟨hshows, htails⟩ := of_bubbles hparts
  refine ⟨fun f => Scene.addBlock_eq_ok_iff.2 ⟨strips, h, rfl⟩, head, parts, hstrips, hhead, hshows,
    htails, ?_, ?_, fun hled => ?_⟩
  · rw [htails]
    exact hung_eq_iff
  · intro hvoiced
    have hsame := (flatMap_tailsOf h).symm.trans (flatMap_tailsOf hvoiced)
    rw [leads_voiced, spoken_voiced] at hsame
    exact flatten_hung_eq_iff.1 hsame
  · rw [block_saying_congr (bubbles_voiced hled), h]

/-- A line that shows nothing takes no tail behind the line that has it. -/
theorem tails_of_saying_hi :
    let s : Scene := ⟨⟨CellText.measure, fun _ _ => none, fun _ => none, Catalog.ofRecords [],
      ⟨[], [], [], [], []⟩, ⟨[]⟩⟩, .standard, [], []⟩
    ∃ strips, s.block (saying none ["hi", "[img:9]"]) = .ok strips ∧
      strips.flatMap tailsOf = [tail .right 0] ∧ s.block (saying none ["hi"]) = .ok strips := by
  intro s
  have hdrawn : (s.block (saying none ["hi", "[img:9]"])).toOption.isSome = true := by
    decide +kernel
  have hleads : leads ["hi", "[img:9]"] 0 = true := by decide +kernel
  have hvoiced : voiced ["hi", "[img:9]"] 0 = ["hi"] := by decide +kernel
  have hspoken : spoken ["hi", "[img:9]"] 0 = [.text "hi"] := by decide +kernel
  cases hstrips : s.block (saying none ["hi", "[img:9]"]) with
  | error e => simp [hstrips, Except.toOption] at hdrawn
  | ok strips =>
    obtain ⟨-, -, -, -, -, -, -, -, hsame⟩ := tails_of_saying hstrips
    refine ⟨strips, rfl, ?_, ?_⟩
    · have htails := flatMap_tailsOf hstrips
      rw [show s.images.length = 0 from rfl, hleads, hspoken] at htails
      exact htails
    · rw [show s.images.length = 0 from rfl, hvoiced] at hsame
      exact hsame.2 (.inl hleads)

/-- The same line in front takes the tail from the bubble, which is the first thing that is
shown. -/
theorem tail_lost_behind_silent :
    let s : Scene := ⟨⟨CellText.measure, fun _ _ => none, fun _ => none, Catalog.ofRecords [],
      ⟨[], [], [], [], []⟩, ⟨[]⟩⟩, .standard, [], []⟩
    spoken ["[img:9]", "hi"] s.images.length = [.text "hi"] ∧
      ∃ strips without, s.block (saying none ["[img:9]", "hi"]) = .ok strips ∧
        s.block (saying none ["hi"]) = .ok without ∧
        strips.flatMap tailsOf = [] ∧ without.flatMap tailsOf = [tail .right 0] := by
  intro s
  have hdrawn : (s.block (saying none ["[img:9]", "hi"])).toOption.isSome = true ∧
      (s.block (saying none ["hi"])).toOption.isSome = true := by decide +kernel
  have hspoken : spoken ["[img:9]", "hi"] 0 = [.text "hi"] ∧ spoken ["hi"] 0 = [.text "hi"] := by
    decide +kernel
  have hleads : leads ["[img:9]", "hi"] 0 = false ∧ leads ["hi"] 0 = true := by decide +kernel
  refine ⟨hspoken.1, ?_⟩
  cases hstrips : s.block (saying none ["[img:9]", "hi"]) with
  | error e => simp [hstrips, Except.toOption] at hdrawn
  | ok strips =>
    cases hwithout : s.block (saying none ["hi"]) with
    | error e => simp [hwithout, Except.toOption] at hdrawn
    | ok without =>
      have htails := flatMap_tailsOf hstrips
      have htails' := flatMap_tailsOf hwithout
      rw [show s.images.length = 0 from rfl, hspoken.1, hleads.1] at htails
      rw [show s.images.length = 0 from rfl, hspoken.2, hleads.2] at htails'
      exact ⟨strips, without, rfl, rfl, htails, htails'⟩

end Chat
end DialogueSheet
