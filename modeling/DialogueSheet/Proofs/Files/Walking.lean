/-
# Where paths lead

The parts of a path lead from location to location, whatever stands there (`walk?`).  Making
directories turns all of these into directories and changes nothing else (`of_makeAlong?`); a
path is located when all of them but the last are directories (`follow?_eq_some_iff`).  So what
one path does to another is a matter of the locations on their ways.

A tree has a directory above everything that stands in it.  Making directories does not take
that away.
-/
import DialogueSheet.Files
import Mathlib.Data.List.Basic

namespace DialogueSheet
namespace Files

variable {files made : Files}

/-! ### Entries -/

theorem lookup_cons_eq_if (k x : Location) (v : Entry) (rest : List (Location × Entry)) :
    ((k, v) :: rest).lookup x = if x = k then some v else rest.lookup x := by
  by_cases hx : x = k
  · simp [hx]
  · rw [List.lookup_cons, beq_eq_false_iff_ne.2 hx, if_neg hx]

theorem lookup_replace (entries : List (Location × Entry)) (l x : Location) (e : Entry) :
    (entries.map fun (k, v) => if k = l then (k, e) else (k, v)).lookup x =
      if x = l ∧ (entries.lookup l).isSome then some e else entries.lookup x := by
  induction entries with
  | nil => simp
  | cons entry rest ih =>
    obtain ⟨k, v⟩ := entry
    rw [List.map_cons, lookup_cons_eq_if, lookup_cons_eq_if]
    by_cases hk : k = l
    · subst hk
      rw [if_pos rfl, lookup_cons_eq_if, ih]
      by_cases hx : x = k <;> simp [hx]
    · rw [if_neg hk, lookup_cons_eq_if, ih, if_neg (Ne.symm hk)]
      by_cases hx : x = k
      · subst hx
        simp [hk]
      · simp [hx]

theorem lookup_concat {entries : List (Location × Entry)} {l : Location}
    (h : entries.lookup l = none) (x : Location) (e : Entry) :
    (entries ++ [(l, e)]).lookup x = if x = l then some e else entries.lookup x := by
  by_cases hx : x = l
  · subst hx
    simp [List.lookup_append, h]
  · rw [List.lookup_append, lookup_cons_eq_if, if_neg hx, if_neg hx]
    simp

@[simp] theorem found?_nil (files : Files) : files.found? [] = some .directory := rfl

/-- An entry is put where it is put, and nowhere else. -/
theorem found?_put (files : Files) {l : Location} (hl : l ≠ []) (e : Entry) (x : Location) :
    Files.found? (files.put l e) x = if x = l then some e else files.found? x := by
  cases x with
  | nil => simp [Ne.symm hl]
  | cons name names =>
    simp only [List.isEmpty_cons, Bool.false_eq_true, if_false, found?, put]
    cases hlookup : files.entries.lookup l with
    | none => simp [lookup_concat hlookup]
    | some old => simp [lookup_replace, hlookup]

theorem startOf_eq (files made : Files) (h : made.working = files.working) (path : String) :
    made.startOf path = files.startOf path := by
  simp only [startOf, h]

/-! ### Walks -/

/-- The locations that the parts of a path lead through, whatever stands there. -/
def walk? : Location → List String → Option (List Location)
  | _, [] => some []
  | location, part :: rest =>
    match step? location part with
    | none => none
    | some next => (walk? next rest).map (next :: ·)

/-- The last location of a walk from `location`. -/
def arrival (location : Location) (walk : List Location) : Location := walk.getLast?.getD location

@[simp] theorem arrival_nil (location : Location) : arrival location [] = location := rfl

@[simp] theorem arrival_cons (location next : Location) (walk : List Location) :
    arrival location (next :: walk) = arrival next walk := by
  simp [arrival, List.getLast?_cons]

@[simp] theorem arrival_concat (location next : Location) (walk : List Location) :
    arrival location (walk ++ [next]) = next := by
  simp [arrival]

theorem walk?_cons_eq_some_iff {location : Location} {part : String} {rest : List String}
    {walk : List Location} :
    walk? location (part :: rest) = some walk ↔
      ∃ next later, step? location part = some next ∧ walk? next rest = some later ∧
        walk = next :: later := by
  rw [walk?]
  cases step? location part with
  | none => simp
  | some next =>
    rw [Option.map_eq_some_iff]
    constructor
    · rintro ⟨later, hlater, rfl⟩
      exact ⟨next, later, rfl, hlater, rfl⟩
    · rintro ⟨_, later, hnext, hlater, rfl⟩
      obtain rfl := Option.some.inj hnext
      exact ⟨later, hlater, rfl⟩

/-- A walk along all parts goes along the first ones and from their end along the others. -/
theorem walk?_append_eq_some_iff {location : Location} {first second : List String}
    {walk : List Location} :
    walk? location (first ++ second) = some walk ↔
      ∃ u v, walk? location first = some u ∧ walk? (arrival location u) second = some v ∧
        walk = u ++ v := by
  induction first generalizing location walk with
  | nil => simp [walk?]
  | cons part rest ih =>
    simp only [List.cons_append, walk?_cons_eq_some_iff, ih]
    constructor
    · rintro ⟨next, later, hnext, ⟨u, v, hu, hv, rfl⟩, rfl⟩
      exact ⟨next :: u, v, ⟨next, u, hnext, hu, rfl⟩, by simpa using hv, rfl⟩
    · rintro ⟨w, v, ⟨next, u, hnext, hu, rfl⟩, hv, rfl⟩
      exact ⟨next, u ++ v, hnext, ⟨u, v, hu, by simpa using hv, rfl⟩, rfl⟩

/-- A path is located when everything on its way but its end is a directory. -/
theorem follow?_eq_some_iff {location goal : Location} {parts : List String} :
    files.follow? location parts = some goal ↔
      ∃ walk, walk? location parts = some walk ∧ goal = arrival location walk ∧
        ∀ l ∈ (location :: walk).dropLast, files.found? l = some .directory := by
  induction parts generalizing location with
  | nil => simp [follow?, walk?, eq_comm]
  | cons part rest ih =>
    rw [follow?]
    constructor
    · intro h
      split at h
      · rename_i hdirectory
        split at h
        · rename_i next hnext
          obtain ⟨walk, hwalk, rfl, hall⟩ := ih.1 h
          refine ⟨next :: walk, walk?_cons_eq_some_iff.2 ⟨next, walk, hnext, hwalk, rfl⟩, by simp,
            ?_⟩
          rw [List.dropLast_cons_cons, List.forall_mem_cons]
          exact ⟨hdirectory, hall⟩
        · cases h
      · cases h
    · rintro ⟨walk, hwalk, rfl, hall⟩
      obtain ⟨next, later, hnext, hlater, rfl⟩ := walk?_cons_eq_some_iff.1 hwalk
      rw [List.dropLast_cons_cons, List.forall_mem_cons] at hall
      rw [if_pos hall.1, hnext]
      exact ih.2 ⟨later, hlater, by simp, hall.2⟩

/-! ### Making directories -/

/-- The tree with directories at the given locations, and nothing else changed. -/
structure Opened (files : Files) (locations : List Location) (made : Files) : Prop where
  working : made.working = files.working
  entry : ∀ l, made.found? l = if l ∈ locations then some .directory else files.found? l

/-- No file stands at any of the locations. -/
def Free (files : Files) (locations : List Location) : Prop :=
  ∀ l ∈ locations, ∀ content, files.found? l ≠ some (.file content)

theorem ne_nil_of_found?_eq_none {l : Location} (h : files.found? l = none) : l ≠ [] := by
  rintro rfl
  cases h

theorem Free.put_directory {locations : List Location} (h : files.Free locations) {l : Location}
    (hl : l ≠ []) : (files.put l .directory).Free locations := by
  intro x hx content
  rw [found?_put files hl]
  split
  · simp
  · exact h x hx content

/-- Directories are made along a walk on which no file stands. -/
theorem exists_makeAlong? {location : Location} {parts : List String} {walk : List Location}
    (hwalk : walk? location parts = some walk) (hfree : files.Free walk) :
    ∃ made, files.makeAlong? location parts = some made := by
  induction parts generalizing files location walk with
  | nil => exact ⟨files, rfl⟩
  | cons part rest ih =>
    obtain ⟨next, later, hnext, hlater, rfl⟩ := walk?_cons_eq_some_iff.1 hwalk
    have hrest : files.Free later := fun l hl => hfree l (List.mem_cons_of_mem _ hl)
    simp only [makeAlong?, hnext]
    cases hentry : files.found? next with
    | none => exact ih hlater (hrest.put_directory (ne_nil_of_found?_eq_none hentry))
    | some entry =>
      cases entry with
      | directory => exact ih hlater hrest
      | file content => exact absurd hentry (hfree next List.mem_cons_self content)

/-- Made directories stand along the walk, and nothing else has changed. -/
theorem of_makeAlong? {location : Location} {parts : List String}
    (h : files.makeAlong? location parts = some made) :
    ∃ walk, walk? location parts = some walk ∧ files.Free walk ∧ files.Opened walk made := by
  induction parts generalizing files location with
  | nil =>
    obtain rfl := Option.some.inj h
    exact ⟨[], rfl, by simp [Free], rfl, by simp⟩
  | cons part rest ih =>
    simp only [makeAlong?] at h
    cases hnext : step? location part with
    | none => simp [hnext] at h
    | some next =>
      rw [hnext] at h
      simp only at h
      cases hentry : files.found? next with
      | none =>
        rw [hentry] at h
        have hl := ne_nil_of_found?_eq_none hentry
        obtain ⟨later, hlater, hfree, hworking, hopened⟩ := ih h
        refine ⟨next :: later, walk?_cons_eq_some_iff.2 ⟨next, later, hnext, hlater, rfl⟩, ?_,
          hworking, fun l => ?_⟩
        · refine List.forall_mem_cons.2 ⟨by simp [hentry], fun l hl' content hfile => ?_⟩
          have hkept := hfree l hl' content
          rw [found?_put files hl] at hkept
          split at hkept
          · rename_i heq
            rw [heq, hentry] at hfile
            cases hfile
          · exact hkept hfile
        · rw [hopened, found?_put files hl]
          by_cases hlater : l ∈ later <;> by_cases heq : l = next <;> simp [hlater, heq]
      | some entry =>
        rw [hentry] at h
        cases entry with
        | file content => cases h
        | directory =>
          obtain ⟨later, hlater, hfree, hworking, hopened⟩ := ih h
          refine ⟨next :: later, walk?_cons_eq_some_iff.2 ⟨next, later, hnext, hlater, rfl⟩,
            List.forall_mem_cons.2 ⟨by simp [hentry], hfree⟩, hworking, fun l => ?_⟩
          rw [hopened]
          by_cases hlater : l ∈ later <;> by_cases heq : l = next <;> simp [hlater, heq, hentry]

/-! ### Trees -/

/-- A tree: a directory stands above everything, and the working directory is one. -/
structure IsTree (files : Files) : Prop where
  working : files.found? files.working = some .directory
  above : ∀ l e, files.found? l = some e → files.found? l.dropLast = some .directory

/-- A path starts in a directory. -/
theorem IsTree.startOf (h : files.IsTree) (path : String) :
    files.found? (files.startOf path) = some .directory := by
  unfold Files.startOf
  split
  · rfl
  · exact h.working

/-- An entry below a directory keeps a tree, if it does not take the place of a directory. -/
theorem IsTree.put (h : files.IsTree) {l : Location} {e : Entry} (hl : l ≠ [])
    (habove : files.found? l.dropLast = some .directory)
    (hplace : files.found? l ≠ some .directory) : (files.put l e).IsTree := by
  have hkept : ∀ x, files.found? x = some .directory →
      Files.found? (files.put l e) x = some .directory := by
    intro x hx
    have hne : x ≠ l := by
      rintro rfl
      exact hplace hx
    rw [found?_put files hl, if_neg hne]
    exact hx
  refine ⟨hkept _ h.working, fun x e' hx => hkept _ ?_⟩
  rw [found?_put files hl] at hx
  split at hx
  · rename_i heq
    rw [heq]
    exact habove
  · exact h.above x e' hx

/-- One part leads from a directory to another one, or below it. -/
theorem IsTree.step (h : files.IsTree) {location next : Location} {part : String}
    (hlocation : files.found? location = some .directory)
    (hnext : step? location part = some next) :
    files.found? next = some .directory ∨ next ≠ [] ∧ next.dropLast = location := by
  unfold step? at hnext
  split_ifs at hnext
  · exact .inl (Option.some.inj hnext ▸ hlocation)
  · rw [← Option.some.inj hnext]
    exact .inl (h.above location _ hlocation)
  · rw [← Option.some.inj hnext]
    exact .inr ⟨by simp, List.dropLast_concat⟩

theorem IsTree.makeAlong? (h : files.IsTree) {location : Location} {parts : List String}
    (hlocation : files.found? location = some .directory)
    (hmade : files.makeAlong? location parts = some made) : made.IsTree := by
  induction parts generalizing files location with
  | nil =>
    rw [← Option.some.inj hmade]
    exact h
  | cons part rest ih =>
    simp only [Files.makeAlong?] at hmade
    cases hnext : step? location part with
    | none => simp [hnext] at hmade
    | some next =>
      rw [hnext] at hmade
      simp only at hmade
      cases hentry : files.found? next with
      | some entry =>
        rw [hentry] at hmade
        cases entry with
        | file content => cases hmade
        | directory => exact ih h hentry hmade
      | none =>
        rw [hentry] at hmade
        rcases h.step hlocation hnext with hdirectory | ⟨hne, habove⟩
        · rw [hentry] at hdirectory
          cases hdirectory
        · refine ih (h.put hne (habove ▸ hlocation) (by simp [hentry])) ?_ hmade
          rw [found?_put files hne, if_pos rfl]

/-- What a path is located at is a directory or stands below one. -/
theorem IsTree.follow? (h : files.IsTree) {location goal : Location} {parts : List String}
    (hlocation : files.found? location = some .directory)
    (hgoal : files.follow? location parts = some goal) :
    files.found? goal = some .directory ∨
      goal ≠ [] ∧ files.found? goal.dropLast = some .directory := by
  induction parts generalizing location with
  | nil => exact .inl (Option.some.inj hgoal ▸ hlocation)
  | cons part rest ih =>
    simp only [Files.follow?, hlocation, if_true] at hgoal
    cases hnext : step? location part with
    | none => simp [hnext] at hgoal
    | some next =>
      rw [hnext] at hgoal
      rcases h.step hlocation hnext with hdirectory | ⟨hne, habove⟩
      · exact ih hdirectory hgoal
      · cases rest with
        | nil =>
          obtain rfl := Option.some.inj hgoal
          exact .inr ⟨hne, habove ▸ hlocation⟩
        | cons part' rest' =>
          have hdirectory : files.found? next = some .directory := by
            by_contra hno
            simp [Files.follow?, hno] at hgoal
          exact ih hdirectory hgoal

theorem IsTree.makeParents? (h : files.IsTree) {path : String}
    (hmade : files.makeParents? path = some made) : made.IsTree := by
  simp only [Files.makeParents?] at hmade
  split at hmade
  · cases hmade
  · exact h.makeAlong? (h.startOf path) hmade

theorem write?_eq_some_iff {path : String} {content : FileContent} {written : Files} :
    files.write? path content = some written ↔
      ∃ goal, files.locate? path = some goal ∧ files.found? goal ≠ some .directory ∧
        written = files.put goal (.file content) := by
  unfold write?
  cases files.locate? path with
  | none => simp
  | some goal =>
    by_cases hdirectory : files.found? goal = some .directory
    · simp [hdirectory]
    · constructor
      · intro h
        simp only [if_neg hdirectory] at h
        exact ⟨goal, rfl, hdirectory, (Option.some.inj h).symm⟩
      · rintro ⟨_, hgoal, -, rfl⟩
        obtain rfl := Option.some.inj hgoal
        simp only [if_neg hdirectory]

/-! ### Files in a directory -/

/-- The directories on the way to a path. -/
def parentsOf (files : Files) (path : String) : List Location :=
  (walk? (files.startOf path) (parentParts path)).getD []

/-- The location of a path, whatever stands on the way. -/
def goalOf (files : Files) (path : String) : Location :=
  ((walk? (files.startOf path) (pathParts path)).map (arrival (files.startOf path))).getD []

/-- A path leads through its directories to its goal, one part further. -/
structure Leads (files : Files) (path : String) : Prop where
  ne_empty : path ≠ ""
  fits : path.utf8ByteSize ≤ maxPathBytes
  parents : walk? (files.startOf path) (parentParts path) = some (files.parentsOf path)
  whole : walk? (files.startOf path) (pathParts path) =
    some (files.parentsOf path ++ [files.goalOf path])

theorem parentsOf_eq (h : made.working = files.working) (path : String) :
    made.parentsOf path = files.parentsOf path := by
  rw [parentsOf, parentsOf, startOf_eq files made h]

theorem goalOf_eq (h : made.working = files.working) (path : String) :
    made.goalOf path = files.goalOf path := by
  rw [goalOf, goalOf, startOf_eq files made h]

theorem Leads.of_working {path : String} (hleads : files.Leads path)
    (h : made.working = files.working) : made.Leads path where
  ne_empty := hleads.ne_empty
  fits := hleads.fits
  parents := by
    rw [startOf_eq files made h, parentsOf_eq h]
    exact hleads.parents
  whole := by
    rw [startOf_eq files made h, parentsOf_eq h, goalOf_eq h]
    exact hleads.whole

/-- A path that is located leads one part further than its directories, if it has that part. -/
theorem Leads.of_locate? {path last : String} {goal : Location}
    (hparts : pathParts path = parentParts path ++ [last]) (h : files.locate? path = some goal) :
    files.Leads path := by
  unfold locate? at h
  split at h
  · cases h
  rename_i hfits
  obtain ⟨walk, hwalk, -, -⟩ := follow?_eq_some_iff.1 h
  have hwhole := hwalk
  rw [hparts, walk?_append_eq_some_iff] at hwalk
  obtain ⟨u, v, hu, hv, rfl⟩ := hwalk
  obtain ⟨next, later, -, hlater, rfl⟩ := walk?_cons_eq_some_iff.1 hv
  obtain rfl := Option.some.inj hlater
  have hparents : files.parentsOf path = u := by rw [parentsOf, hu]; rfl
  have hgoal : files.goalOf path = next := by
    rw [goalOf, hwhole]
    exact arrival_concat ..
  simp only [not_or, Nat.not_lt] at hfits
  refine ⟨hfits.1, hfits.2, by rw [hparents, hu], ?_⟩
  rw [hparents, hgoal, hwhole]

/-- The length of the path to the directories is within the limit. -/
def ParentsFit (path : String) : Prop :=
  (String.intercalate "/" (parentParts path)).utf8ByteSize ≤ maxPathBytes

/-- The directories of a path are made where no file stands on the way. -/
theorem Leads.exists_makeParents? {path : String} (h : files.Leads path) (hfits : ParentsFit path)
    (hfree : files.Free (files.parentsOf path)) :
    ∃ made, files.makeParents? path = some made := by
  obtain ⟨made, hmade⟩ := exists_makeAlong? h.parents hfree
  refine ⟨made, ?_⟩
  simp only [makeParents?]
  rw [if_neg (Nat.not_lt.2 hfits), hmade]

theorem of_makeParents? {path : String} (h : files.makeParents? path = some made) :
    ParentsFit path ∧ files.Free (files.parentsOf path) ∧
      files.Opened (files.parentsOf path) made := by
  simp only [makeParents?] at h
  split at h
  · cases h
  · rename_i hfits
    obtain ⟨walk, hwalk, hfree, hopened⟩ := of_makeAlong? h
    have hparents : files.parentsOf path = walk := by rw [parentsOf, hwalk]; rfl
    rw [hparents]
    exact ⟨Nat.not_lt.1 hfits, hfree, hopened⟩

/-- A path is located when its directories stand. -/
theorem Leads.locate?_eq_some_iff {path : String} (h : files.Leads path) {goal : Location} :
    files.locate? path = some goal ↔ goal = files.goalOf path ∧
      ∀ l ∈ files.startOf path :: files.parentsOf path, files.found? l = some .directory := by
  have hfits := h.fits
  rw [locate?, if_neg (by simp [h.ne_empty]; omega), follow?_eq_some_iff, h.whole]
  have hdrop : (files.startOf path :: (files.parentsOf path ++ [files.goalOf path])).dropLast =
      files.startOf path :: files.parentsOf path := by
    rw [← List.cons_append, List.dropLast_concat]
  constructor
  · rintro ⟨walk, hwalk, rfl, hall⟩
    obtain rfl := Option.some.inj hwalk
    rw [hdrop] at hall
    exact ⟨arrival_concat .., hall⟩
  · rintro ⟨rfl, hall⟩
    refine ⟨_, rfl, (arrival_concat ..).symm, ?_⟩
    rw [hdrop]
    exact hall

theorem Leads.at?_eq {path : String} (h : files.Leads path)
    (hall : ∀ l ∈ files.startOf path :: files.parentsOf path, files.found? l = some .directory) :
    files.at? path = files.found? (files.goalOf path) := by
  rw [at?, h.locate?_eq_some_iff.2 ⟨rfl, hall⟩]
  rfl

theorem Leads.exists?_eq {path : String} (h : files.Leads path)
    (hall : ∀ l ∈ files.startOf path :: files.parentsOf path, files.found? l = some .directory) :
    files.exists? path = (files.found? (files.goalOf path)).isSome :=
  congrArg Option.isSome (h.at?_eq hall)

theorem exists_locate? {path : String} (h : files.exists? path = true) :
    ∃ goal, files.locate? path = some goal := by
  obtain ⟨e, he⟩ := Option.isSome_iff_exists.1 h
  obtain ⟨goal, hgoal, -⟩ := Option.bind_eq_some_iff.1 he
  exact ⟨goal, hgoal⟩

theorem Leads.write?_eq_some_iff {path : String} (h : files.Leads path) {content : FileContent}
    {written : Files} :
    files.write? path content = some written ↔
      (∀ l ∈ files.startOf path :: files.parentsOf path, files.found? l = some .directory) ∧
        files.found? (files.goalOf path) ≠ some .directory ∧
        written = files.put (files.goalOf path) (.file content) := by
  rw [Files.write?_eq_some_iff]
  constructor
  · rintro ⟨goal, hgoal, hplace, rfl⟩
    obtain ⟨rfl, hall⟩ := h.locate?_eq_some_iff.1 hgoal
    exact ⟨hall, hplace, rfl⟩
  · rintro ⟨hall, hplace, rfl⟩
    exact ⟨_, h.locate?_eq_some_iff.2 ⟨rfl, hall⟩, hplace, rfl⟩

/-! ### The same files -/

/-- The same tree, whatever the order of its entries. -/
structure Same (a b : Files) : Prop where
  working : a.working = b.working
  entry : ∀ l, a.found? l = b.found? l

theorem Same.refl (files : Files) : files.Same files := ⟨rfl, fun _ => rfl⟩

theorem IsTree.of_same {a b : Files} (ha : a.IsTree) (h : a.Same b) : b.IsTree where
  working := by
    rw [← h.working, ← h.entry]
    exact ha.working
  above l e hl := by
    rw [← h.entry] at hl ⊢
    exact ha.above l e hl

theorem Same.follow?_eq {a b : Files} (h : a.Same b) (location : Location) (parts : List String) :
    a.follow? location parts = b.follow? location parts := by
  induction parts generalizing location with
  | nil => rfl
  | cons part rest ih =>
    rw [follow?, follow?, h.entry]
    cases step? location part with
    | none => rfl
    | some next => simp only [ih]

theorem Same.at?_eq {a b : Files} (h : a.Same b) (path : String) : a.at? path = b.at? path := by
  have hlocate : a.locate? path = b.locate? path := by
    rw [locate?, locate?, startOf_eq b a h.working, h.follow?_eq]
  have hentry : a.found? = b.found? := funext h.entry
  rw [at?, at?, hlocate, hentry]

end Files
end DialogueSheet
